import Mathlib.Data.Nat.Find
import TimelapsePlus.Shutter.BulbLimit

/-!
# Searching the Shortest Exposure

The calibration looks for the shortest timed exposure the camera can do. It begins with
the first of the list and goes down one by one while the exposure is not longer than
what was measured, with five percent on top.

How long an exposure is depends on the shortest one that is set. Up to it the length is
that of the list, and past it that of the shutter table, and few of these are the same.
So what is found depends on what is set when the search begins.

Whatever is set, an exposure is longer than the next one in either table. So the search
stops at the first exposure that is long enough, and one that is longer than those that
are set is found with either of them.

What is measured is an integer, and the product of a length in the tables and 1.05 is
worked out exactly where the code has `float`.

## Main definitions

* `SearchEnv`: What the search is given by the camera.
* `SearchEnv.bulbDown`, `SearchEnv.bulbTime`: `PTP::bulbDown` and `PTP::bulbTime`.
* `SearchEnv.findMin`: The search.
* `bulbLength`: The length of an exposure, for the shortest one that is set.
* `Covers`: A time is as long as an exposure.
* `Agreed`: The two tables agree on what a time covers.
* `Outlasts`: A time covers in the list what another does in either table.
* `shortestEv`: The exposure that is found, by the tables.

## Theorems

* `bulbTime_eq`: The lengths the search comes across.
* `bulbLength_lt`: An exposure is longer than the next, whatever is set.
* `findMin_eq`: What is found.
* `min_shortest`: It makes no difference to the lower of two what else is set.
* `agreed_iff`: When it makes none to what is found.
* `outlasts_iff`: When another search comes to an exposure that is as long.
-/

namespace TimelapsePlus

namespace Menu

namespace Calibration

open Ptp Shutter

/-- What the search is given: the camera, and if `PTP::shutterType` is not zero. -/
structure SearchEnv where
  ramp : Ramp
  shutterType : Nat → Bool

namespace SearchEnv

variable (env : SearchEnv)

/-- `PTP::bulbMinStatic`. -/
def bulbMinStatic : Nat := (bulbList.getD 1 ⟨0, 0⟩).ev

/-- `PTP::bulbDown`. -/
def bulbDown (ev : Nat) : Nat :=
  match bulbList.find? fun d => decide ((d.ev : Int) = ev - 1) with
  | some d => d.ev
  | none => if env.shutterType ev = true then ev else (bulbList.getD 1 ⟨0, 0⟩).ev

/-- The settings with a shortest exposure. -/
def withBulbMin (bulbMin : UInt8) : Ramp :=
  { env.ramp with
    conf :=
      { env.ramp.conf with
        camera := { env.ramp.conf.camera with bulbMin := bulbMin.toNat } } }

/-- `PTP::bulbTime`, with `conf.camera.bulbMin`. -/
def bulbTime (bulbMin : UInt8) (ev : Nat) : Nat := (env.withBulbMin bulbMin).bulbTime ev

/-- The loop of the search, with so many rounds left, from an exposure on. -/
def findMin (bulbMin : UInt8) (minTime : Int) : Nat → Nat → Option Nat
  | 0, ev => if (env.bulbTime bulbMin ev : Int) * 105 ≤ minTime * 100 then none else some ev
  | n + 1, ev =>
    if (env.bulbTime bulbMin ev : Int) * 105 ≤ minTime * 100 then
      findMin bulbMin minTime n (env.bulbDown ev)
    else some ev

end SearchEnv

/-- The length the shutter table has for an exposure. -/
def shutterMs (ev : Nat) : Nat :=
  ((ptpShutterList.find? fun d => decide ((d.ev : Int) = ev)).map fun d => d.nikon / 10).getD 0

/-- The length of an exposure, for the shortest one that is set. -/
def bulbLength (bulbMin : UInt8) (ev : Nat) : Nat :=
  if bulbMin.toNat < ev then shutterMs ev else listedMs ev

/-- The exposures the search comes across are in both tables, and in either they are longer
    than the next one is in any. -/
theorem tables_row : ∀ ev : Nat, ev < 62 → 39 ≤ ev →
    (ptpShutterList.find? fun d => decide ((d.ev : Int) = ev)).map (fun d => d.nikon / 10) =
      some (shutterMs ev) ∧
    (bulbList.find? fun d => decide ((d.ev : Int) = (ev : Int) - 1)).map BulbSettings.ev =
      some (ev - 1) ∧
    (ev < 61 → shutterMs (ev + 1) < shutterMs ev ∧ shutterMs (ev + 1) < listedMs ev ∧
      listedMs (ev + 1) < shutterMs ev ∧ listedMs (ev + 1) < listedMs ev) := by
  decide

/-- The longest of them is longer than any wait. -/
theorem longest_row : 2500 ≤ shutterMs 39 ∧ 2500 ≤ listedMs 39 := by
  decide

theorem longest_le (bulbMin : UInt8) : 2500 ≤ bulbLength bulbMin 39 := by
  unfold bulbLength
  split
  · exact longest_row.1
  · exact longest_row.2

/-- An exposure is longer than the next, whatever is set for either. -/
theorem bulbLength_lt {b b' : UInt8} {ev ev' : Nat} (hlow : 39 ≤ ev) (hlt : ev < ev')
    (hhigh : ev' ≤ 61) : bulbLength b' ev' < bulbLength b ev := by
  -- From one exposure to the next it is a matter of the tables.
  have hstep : ∀ e, 39 ≤ e → e < 61 → ∀ c c' : UInt8, bulbLength c' (e + 1) < bulbLength c e := by
    intro e he he' c c'
    have hrow := (tables_row e (by omega) he).2.2 he'
    unfold bulbLength
    split
    · split
      · exact hrow.1
      · exact hrow.2.1
    · split
      · exact hrow.2.2.1
      · exact hrow.2.2.2
  induction ev', hlt using Nat.le_induction generalizing b' with
  | base => exact hstep ev hlow (by omega) b b'
  | succ e hle ih => exact (hstep e (by omega) (by omega) b' b').trans (ih (by omega))

namespace SearchEnv

variable (env : SearchEnv) {b b' : UInt8} {minTime : Int} {ev : Nat}

theorem bulbDown_eq (hlow : 39 ≤ ev) (hhigh : ev ≤ 61) : env.bulbDown ev = ev - 1 := by
  -- The exposure below is in the list, so the camera is not asked.
  have hrow := (tables_row ev (by omega) hlow).2.1
  rcases Option.map_eq_some_iff.mp hrow with ⟨d, hd, hev⟩
  unfold bulbDown
  rw [hd]
  exact hev

/-- The lengths the search comes across are those of the tables. -/
theorem bulbTime_eq (hlow : 39 ≤ ev) (hhigh : ev ≤ 61) : env.bulbTime b ev = bulbLength b ev := by
  have hne : ¬ ((ev : Int) = 0) := by omega
  have hmin : bulbMinEv (env.withBulbMin b).conf = min 61 b.toNat := rfl
  have hpast_iff : ((bulbMinEv (env.withBulbMin b).conf : Int) < ev) ↔ b.toNat < ev := by
    rw [hmin]
    omega
  unfold bulbTime Ramp.bulbTime listedTime bulbLength
  rw [if_neg hne]
  simp only [hpast_iff]
  by_cases hpast : b.toNat < ev
  · rw [if_pos hpast, if_pos hpast, (tables_row ev (by omega) hlow).1]
  · rw [if_neg hpast, if_neg hpast, (listedMs_row ev (by omega) (by unfold bulbMaxEv; omega)).1]

end SearchEnv

/-- What was measured is as long as the exposure, with five percent on top. -/
def Covers (b : UInt8) (minTime : Int) (ev : Nat) : Prop :=
  (bulbLength b ev : Int) * 105 ≤ minTime * 100

instance (b : UInt8) (minTime : Int) (ev : Nat) : Decidable (Covers b minTime ev) :=
  inferInstanceAs (Decidable (_ ≤ _))

/-- If it is, it is as long as the exposures before it, whatever is set for them. -/
theorem Covers.mono {b b' : UInt8} {minTime : Int} {ev ev' : Nat} (h : Covers b minTime ev)
    (hlow : 39 ≤ ev) (hle : ev < ev') (hhigh : ev' ≤ 61) : Covers b' minTime ev' := by
  have hlt : bulbLength b' ev' < bulbLength b ev := bulbLength_lt hlow hle hhigh
  unfold Covers at h ⊢
  omega

/-- A time that a wait may take does not cover the longest of them. -/
theorem not_covers {b : UInt8} {minTime : Int} (h : minTime ≤ 2500) : ¬ Covers b minTime 39 := by
  have hle := longest_le b
  unfold Covers
  omega

/-- The exposure that is found: the first that is not covered. -/
structure Shortest (b : UInt8) (minTime : Int) (ev : Nat) : Prop where
  low : 39 ≤ ev
  high : ev ≤ 61
  stops : ¬ Covers b minTime ev
  before : ∀ ev', ev < ev' → ev' ≤ 61 → Covers b minTime ev'

/-- There is only one. -/
theorem Shortest.unique {b : UInt8} {minTime : Int} {ev ev' : Nat} (h : Shortest b minTime ev)
    (h' : Shortest b minTime ev') : ev = ev' := by
  rcases lt_trichotomy ev ev' with hlt | heq | hlt
  · exact absurd (h.before ev' hlt h'.high) h'.stops
  · exact heq
  · exact absurd (h'.before ev hlt h.high) h.stops

namespace SearchEnv

variable (env : SearchEnv) {b b' : UInt8} {minTime : Int} {ev : Nat}

/-- The search finds it from any exposure on that is not past it. -/
theorem findMin_from (hwait : minTime ≤ 2500) (n : Nat) (hlow : 39 ≤ ev) (hn : ev ≤ n + 39)
    (hhigh : ev ≤ 61) (hbefore : ∀ ev', ev < ev' → ev' ≤ 61 → Covers b minTime ev') :
    ∃ r, env.findMin b minTime n ev = some r ∧ Shortest b minTime r := by
  induction n generalizing ev with
  | zero =>
      have hev : ev = 39 := by omega
      subst hev
      refine ⟨39, ?_, hlow, hhigh, not_covers hwait, hbefore⟩
      unfold findMin
      rw [env.bulbTime_eq hlow hhigh]
      exact if_neg (not_covers hwait)
  | succ n ih =>
      unfold findMin
      rw [env.bulbTime_eq hlow hhigh]
      change ∃ r, (if Covers b minTime ev then _ else _) = some r ∧ _
      by_cases hcovers : Covers b minTime ev
      · -- The exposure is not the longest, and the search goes on with the one below.
        have hne : ev ≠ 39 := fun heq => not_covers hwait (heq ▸ hcovers)
        rw [if_pos hcovers, env.bulbDown_eq hlow hhigh]
        refine ih (by omega) (by omega) (by omega) fun ev' hlt hle => ?_
        rcases Nat.lt_or_ge ev ev' with hpast | hge
        · exact hbefore ev' hpast hle
        · rwa [show ev' = ev by omega]
      · exact ⟨ev, if_neg hcovers, hlow, hhigh, hcovers, hbefore⟩

/-- The search finds the first exposure that is not covered. -/
theorem findMin_spec (hwait : minTime ≤ 2500) :
    ∃ r, env.findMin b minTime 100 bulbMinStatic = some r ∧ Shortest b minTime r :=
  env.findMin_from hwait 100 (by decide) (by decide) (by decide) fun ev' hlt hle =>
    absurd hle (Nat.not_le.mpr hlt)

end SearchEnv

/-- The list has the lengths of all exposures that are not past the one that is set. -/
theorem covers_iff {b b' : UInt8} {minTime : Int} {ev : Nat} (hb : ev ≤ b.toNat)
    (hb' : ev ≤ b'.toNat) : Covers b minTime ev ↔ Covers b' minTime ev := by
  unfold Covers bulbLength
  rw [if_neg (Nat.not_lt.mpr hb), if_neg (Nat.not_lt.mpr hb')]

/-- What is found is found with any other set, if it is longer than both. -/
theorem Shortest.of_lt {b : UInt8} (b' : UInt8) {minTime : Int} {ev : Nat}
    (h : Shortest b minTime ev) (hb : ev < b.toNat) (hb' : ev < b'.toNat) : Shortest b' minTime ev := by
  refine ⟨h.low, h.high, fun hcovers => ?_, fun ev' hlt hle => ?_⟩
  · exact h.stops ((covers_iff hb.le hb'.le).mpr hcovers)
  · rcases Nat.lt_or_eq_of_le (Nat.succ_le_of_lt hlt) with hpast | rfl
    · -- The exposure after it is covered, and so are those before that.
      exact (h.before (ev + 1) (Nat.lt_succ_self ev) (by omega)).mono (by have := h.low; omega)
        hpast hle
    · exact (covers_iff hb hb').mp (h.before _ hlt hle)

/-- It makes no difference to the lower of the two whether one is found with that set, or
    with another that is not below it. -/
theorem min_shortest {b b' : UInt8} {minTime : Int} {k ev ev' : Nat} (h : Shortest b minTime ev)
    (h' : Shortest b' minTime ev') (hb : k ≤ b.toNat) (hb' : k ≤ b'.toNat) :
    min k ev = min k ev' := by
  rcases Nat.lt_or_ge ev k with hlt | hge
  · rw [(h.of_lt b' (by omega) (by omega)).unique h']
  · rcases Nat.lt_or_ge ev' k with hlt' | hge'
    · rw [(h'.of_lt b (by omega) (by omega)).unique h]
    · rw [Nat.min_eq_left hge, Nat.min_eq_left hge']

/-- What a time covers are the exposures past the one that is found. -/
theorem Shortest.covers_iff {b : UInt8} {minTime : Int} {ev ev' : Nat} (h : Shortest b minTime ev)
    (hlow : 39 ≤ ev') (hhigh : ev' ≤ 61) : Covers b minTime ev' ↔ ev < ev' := by
  refine ⟨fun hcovers => ?_, fun hlt => h.before ev' hlt hhigh⟩
  rcases Nat.lt_trichotomy ev ev' with hlt | rfl | hlt
  · exact hlt
  · exact absurd hcovers h.stops
  · exact absurd (hcovers.mono hlow hlt h.high) h.stops

/-- Whatever is set, the length of an exposure is that of the list, or of the other table. -/
theorem covers_either (b : UInt8) (minTime : Int) {ev : Nat} (hlow : 39 ≤ ev) (hhigh : ev ≤ 61) :
    (Covers b minTime ev ↔ Covers 61 minTime ev) ∨ (Covers b minTime ev ↔ Covers 0 minTime ev) := by
  by_cases hpast : b.toNat < ev
  · refine Or.inr ?_
    unfold Covers bulbLength
    rw [if_pos hpast, if_pos (by rw [UInt8.toNat_zero]; omega)]
  · exact Or.inl (covers_iff (Nat.le_of_not_lt hpast) hhigh)

/-- A time covers the same exposures by either table: it is not between the lengths that
    these have for one of them. -/
def Agreed (minTime : Int) : Prop :=
  ∀ ev, 39 ≤ ev → ev ≤ 61 → (Covers 61 minTime ev ↔ Covers 0 minTime ev)

/-- A time covers in the list all exposures that another covers in either table. -/
def Outlasts (minTime minTime' : Int) : Prop :=
  ∀ ev, 39 ≤ ev → ev ≤ 61 → Covers 61 minTime' ev ∨ Covers 0 minTime' ev → Covers 61 minTime ev

/-- The exposure that is found for a time, by the tables. -/
def shortestEv (b : UInt8) (minTime : Int) : Nat :=
  Nat.findGreatest (fun ev => 39 ≤ ev ∧ ¬ Covers b minTime ev) 61

section ShortestEv

variable {b : UInt8} {minTime minTime' : Int}

theorem shortestEv_spec (b : UInt8) (hwait : minTime ≤ 2500) :
    Shortest b minTime (shortestEv b minTime) := by
  have hspec := Nat.findGreatest_spec (P := fun ev => 39 ≤ ev ∧ ¬ Covers b minTime ev)
    (n := 61) (by omega : 39 ≤ 61) ⟨le_rfl, not_covers hwait⟩
  refine ⟨hspec.1, Nat.findGreatest_le 61, hspec.2, fun ev' hlt hle => ?_⟩
  by_contra hnot
  exact Nat.findGreatest_is_greatest hlt hle ⟨hspec.1.trans hlt.le, hnot⟩

/-- The search finds it. -/
theorem findMin_eq (env : SearchEnv) (b : UInt8) (hwait : minTime ≤ 2500) :
    env.findMin b minTime 100 SearchEnv.bulbMinStatic = some (shortestEv b minTime) := by
  rcases env.findMin_spec (b := b) hwait with ⟨r, hr, hfound⟩
  rw [hr, hfound.unique (shortestEv_spec b hwait)]

/-- If the two tables agree, the search finds the same whatever is set. -/
theorem Agreed.shortestEv_eq (h : Agreed minTime) (hwait : minTime ≤ 2500) (b : UInt8) :
    shortestEv b minTime = shortestEv 61 minTime := by
  have hlist := shortestEv_spec 61 hwait
  have hsame : ∀ ev, 39 ≤ ev → ev ≤ 61 → (Covers b minTime ev ↔ Covers 61 minTime ev) := by
    intro ev hlow hhigh
    rcases covers_either b minTime hlow hhigh with heither | heither
    · exact heither
    · exact heither.trans (h ev hlow hhigh).symm
  refine (shortestEv_spec b hwait).unique ⟨hlist.low, hlist.high, ?_, fun ev' hlt hle => ?_⟩
  · exact fun hcovers => hlist.stops ((hsame _ hlist.low hlist.high).mp hcovers)
  · exact (hsame ev' (by have := hlist.low; omega) hle).mpr (hlist.before ev' hlt hle)

/-- They agree if and only if it finds the same with nothing set as with all of the list. -/
theorem agreed_iff (hwait : minTime ≤ 2500) :
    Agreed minTime ↔ shortestEv 0 minTime = shortestEv 61 minTime := by
  refine ⟨fun h => h.shortestEv_eq hwait 0, fun heq ev hlow hhigh => ?_⟩
  rw [(shortestEv_spec 61 hwait).covers_iff hlow hhigh,
    (shortestEv_spec 0 hwait).covers_iff hlow hhigh, heq]

/-- What is found is not below what is found with nothing set and with all of the list. -/
theorem le_shortestEv (b : UInt8) (hwait : minTime ≤ 2500) {ev : Nat}
    (hlist : ev ≤ shortestEv 61 minTime) (hzero : ev ≤ shortestEv 0 minTime) :
    ev ≤ shortestEv b minTime := by
  have hfound := shortestEv_spec b hwait
  have hhigh := hlist.trans (shortestEv_spec 61 hwait).high
  by_contra hlt
  have hlow : 39 ≤ ev := hfound.low.trans (by omega)
  -- It would be covered by the table that has its length.
  have hcovers := (hfound.covers_iff hlow hhigh).mpr (by omega)
  rcases covers_either b minTime hlow hhigh with heither | heither
  · have := ((shortestEv_spec 61 hwait).covers_iff hlow hhigh).mp (heither.mp hcovers)
    omega
  · have := ((shortestEv_spec 0 hwait).covers_iff hlow hhigh).mp (heither.mp hcovers)
    omega

/-- A time outlasts another if and only if the search comes to an exposure that is as long
    for the first as both of those for the second. -/
theorem outlasts_iff (hwait : minTime ≤ 2500) (hwait' : minTime' ≤ 2500) :
    Outlasts minTime minTime' ↔ shortestEv 61 minTime ≤ shortestEv 61 minTime' ∧
      shortestEv 61 minTime ≤ shortestEv 0 minTime' := by
  have hfound := shortestEv_spec 61 hwait
  have hlist := shortestEv_spec 61 hwait'
  have hzero := shortestEv_spec 0 hwait'
  constructor
  · intro houtlasts
    have hnot : ¬ (Covers 61 minTime' (shortestEv 61 minTime) ∨
        Covers 0 minTime' (shortestEv 61 minTime)) := fun hcovers =>
      hfound.stops (houtlasts _ hfound.low hfound.high hcovers)
    rw [hlist.covers_iff hfound.low hfound.high, hzero.covers_iff hfound.low hfound.high] at hnot
    omega
  · intro hle ev hlow hhigh hcovers
    rw [hlist.covers_iff hlow hhigh, hzero.covers_iff hlow hhigh] at hcovers
    rw [hfound.covers_iff hlow hhigh]
    omega

end ShortestEv

end Calibration

end Menu

end TimelapsePlus
