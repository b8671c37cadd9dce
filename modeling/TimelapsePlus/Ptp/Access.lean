import TimelapsePlus.Lib.Query
import TimelapsePlus.Ptp.Tables

/-!
# Where the Tables Are Looked at

The lookups in the tables of available values, with every place in an array that
they look at. Only the listed ones are what the camera has told: an entry from
the count on is left over from another list, and what is in front of an array or
behind it is another variable.

Three of them look at the last or the first entry before they know that there is
one, and one makes no use of it if there is none. The fastest shutter is searched
for from the count down to one, where the entries are from the count minus one
down to zero.

A function of the source that lets its variable keep the last value a loop has
looked at is a `scan` here, and one that returns from inside the loop a `search`.

## Main definitions

* `Limits`, `Counts`: What is read beside the arrays.
* `isoMax` to `shutterType`: The functions of the source.
* `Accessor`: All of them.
* `CurrentOnly`: They depend on the listed values only and look at no others.

## Theorems

* `isoUp_run` and its like: The lookups are those of `Tables`.
* `lookup_within`: What they need to look at listed values only.
* `currentOnly_iff`: When all of them look at listed values only.
* `stale_shutter`: The fastest shutter may be one that is not listed.
-/

namespace TimelapsePlus

namespace Ptp

namespace Access

open Query

/-- A function that reads an array. -/
abbrev Lookup := Query Int Nat Nat

/-- `conf.isoMax`, `conf.apertureMax`, `conf.apertureMin` and `conf.camera.bulbMin`. -/
structure Limits where
  isoMax : Nat
  apertureMax : Nat
  apertureMin : Nat
  bulbMin : Nat

/-- The counts beside the arrays, which are no more than the arrays hold. -/
structure Counts where
  iso : Nat
  shutter : Nat
  aperture : Nat
  iso_le : iso ≤ isoCountMax
  shutter_le : shutter ≤ shutterCountMax
  aperture_le : aperture ≤ apertureCountMax

/-- A value of a setting, and not one of the special codes. -/
def plain (v : Nat) : Bool := decide (0 < v ∧ v < 128)

/-- The indices of the listed values, from the first to the last, and back. -/
def upward (count : Nat) : List Int := (List.range count).map fun i : Nat => (i : Int)
def downward (count : Nat) : List Int :=
  (List.range count).map fun i : Nat => (count - (i + 1) : Int)

/-- `PTP::bulbMin`. -/
def bulbMin (c : Limits) : Nat :=
  let tmp := (bulbList.getD 1 ⟨0, 0⟩).ev
  if c.bulbMin < tmp then c.bulbMin else tmp

/-- `PTP::isoMax`. -/
def isoMax (c : Limits) (count : Nat) : Lookup :=
  if 0 < count then do
    let tmp ← scan plain (downward count) 0
    return if tmp < c.isoMax then c.isoMax else tmp
  else return 0

/-- `PTP::isoMin`. -/
def isoMin (count : Nat) : Lookup := do
  let found ← search (fun _ v => if plain v then some v else none) (upward count)
  return found.getD 0

/-- `PTP::apertureMax`. -/
def apertureMax (c : Limits) (count : Nat) : Lookup :=
  if 0 < count then do
    let tmp ← scan plain (downward count) 0
    return if c.apertureMax < tmp then c.apertureMax else tmp
  else return 0

/-- `PTP::apertureMin`. -/
def apertureMin (c : Limits) (count : Nat) : Lookup :=
  if 0 < count then do
    let tmp ← scan plain (upward count) 0
    return if tmp < c.apertureMin then c.apertureMin else tmp
  else return 0

/-- `PTP::apertureWideOpen`. -/
def apertureWideOpen : Lookup := look 0

/-- `PTP::shutterMin`. The index runs from the count down to one. -/
def shutterMin (c : Limits) (count : Nat) : Lookup := do
  let found ← search (fun _ v => if plain v then some v else none)
    ((List.range count).map fun i : Nat => (count - i : Int))
  return found.getD (bulbMin c)

/-- The index of the first listed value that is `ev`. -/
def position (count ev : Nat) : Query Int Nat (Option Int) :=
  search (fun i v => if v = ev then some i else none) (upward count)

/-- `PTP::isoUp`. The last entry is looked at first. -/
def isoUp (c : Limits) (count ev : Nat) : Lookup := do
  let tmp ← look (count - 1)
  if count = 0 then return ev
  else
    let found ← position count ev
    let tmp ← match found with
      | some i => if i < count - 1 then look (i + 1) else pure tmp
      | none => pure tmp
    return if tmp < c.isoMax then c.isoMax else tmp

/-- `PTP::isoDown`. -/
def isoDown (count ev : Nat) : Lookup :=
  if count = 0 then return ev
  else do
    let found ← position count ev
    match found with
    | some i => if 0 < i then look (i - 1) else look 0
    | none => look 0

/-- `PTP::apertureUp`. The last entry is looked at first. -/
def apertureUp (c : Limits) (count ev : Nat) : Lookup := do
  let tmp ← look (count - 1)
  let found ← position count ev
  let tmp ← match found with
    | some i => if i < count - 1 then look (i + 1) else pure tmp
    | none => pure tmp
  return if c.apertureMax < tmp then c.apertureMax else tmp

/-- `PTP::apertureDown`. The first entry is looked at first. -/
def apertureDown (c : Limits) (count ev : Nat) : Lookup := do
  let tmp ← look 0
  let found ← position count ev
  let tmp ← match found with
    | some i => if 0 < i then look (i - 1) else pure tmp
    | none => pure tmp
  return if tmp < c.apertureMin then c.apertureMin else tmp

/-- `SHUTTER_MODE_BULB` and `SHUTTER_MODE_PTP`. -/
def shutterModeBulb : Nat := 1
def shutterModePtp : Nat := 2

/-- `PTP::shutterType`. -/
def shutterType (count ev : Nat) : Lookup := do
  let found ← position count ev
  let ret := if found.isSome then shutterModePtp else 0
  let bulb := (bulbList.any fun b => decide (b.ev = ev)) && decide (ev < 128)
  return if bulb then ret ||| shutterModeBulb else ret

/-- The value of an entry of `Bulb_List`. -/
def bulbEv (i : Nat) : Nat := (bulbList.getD i ⟨0, 0⟩).ev

/-- `PTP::shutterUp`. -/
def shutterUp (count ev : Nat) : Lookup :=
  if ev = bulbEvCode then return 28
  else do
    let listed ←
      (if ev < 128 then search (fun _ v => if v = ev + 1 then some v else none) (upward count)
        else pure none)
    let bulb := if ev < 128 then bulbList.find? fun b => decide (b.ev = ev + 1) else none
    match listed, bulb with
    | some v, _ => return v
    | none, some b => return b.ev
    | none, none => do
        let type ← shutterType count ev
        if type ≠ 0 then return if count = 0 then bulbEv 0 else ev
        else if 0 < count then look (count - 1)
        else return bulbEv 0

/-- `PTP::shutterDown`. -/
def shutterDown (count ev : Nat) : Lookup :=
  if ev = bulbEvCode then return 28
  else do
    let listed ← search (fun _ v =>
      if (v : Int) = ev - 1 then some v
      else if ev = 28 ∧ v = bulbEvCode then some bulbEvCode
      else none) (upward count)
    match listed, bulbList.find? fun b => decide ((b.ev : Int) = ev - 1) with
    | some v, _ => return v
    | none, some b => return b.ev
    | none, none =>
        if 128 < ev then return bulbEv 1
        else do
          let type ← shutterType count ev
          if type ≠ 0 then return ev
          else if 0 < count then look 0
          else return bulbEv 1

/-- The memory a table is in. -/
def cell {cap : Nat} (t : Table cap) (i : Int) : Nat := if i < 0 then t.before else t.item i.toNat

section Tables

variable {cap : Nat} (t : Table cap)

@[simp] theorem cell_natCast (k : Nat) : cell t (k : Int) = t.item k := by
  unfold cell
  rw [if_neg (by omega), Int.toNat_natCast]

theorem cell_last : cell t (t.count - 1) = t.last := by
  unfold cell Table.last
  by_cases hzero : t.count = 0
  · rw [if_pos (by omega), if_pos hzero]
  · rw [if_neg (by omega), if_neg hzero]
    congr 1
    omega

/-- A position is the one a table finds. -/
theorem position_run (ev : Nat) :
    (position t.count ev).run (cell t) = (t.find ev).map fun i : Nat => (i : Int) := by
  unfold position upward Table.find
  rw [run_search]
  induction List.range t.count with
  | nil => rfl
  | cons k ks ih =>
      rw [List.map_cons, List.findSome?_cons, cell_natCast, List.find?_cons]
      by_cases hk : t.item k = ev
      · rw [if_pos hk, beq_iff_eq.mpr hk]
        rfl
      · rw [if_neg hk, beq_eq_false_iff_ne.mpr hk]
        exact ih

theorem cell_pred {i : Nat} (h : 0 < i) : cell t ((i : Int) - 1) = t.item (i - 1) := by
  have heq : (i : Int) - 1 = (i - 1 : Nat) := by omega
  rw [heq, cell_natCast]

/-- The next value, or else the last one. -/
theorem next_run (i : Nat) (f : Nat → Nat) :
    (if (i : Int) < t.count - 1 then (look ((i : Int) + 1) >>= fun v => pure (f v) : Lookup)
      else pure (f t.last)).run (cell t) =
        f (if i < t.count - 1 then t.item (i + 1) else t.last) := by
  by_cases hlt : i < t.count - 1
  · have heq : (i : Int) + 1 = (i + 1 : Nat) := by omega
    rw [if_pos (by omega), if_pos hlt, run_bind, run_look, heq, cell_natCast, run_pure]
  · rw [if_neg (by omega), if_neg hlt, run_pure]

/-- The lookups come to what they do in `Tables`. -/
theorem isoUp_run (c : Limits) (t : Table isoCountMax) (ev : Nat) :
    (isoUp c t.count ev).run (cell t) = Ptp.isoUp t c.isoMax ev := by
  unfold isoUp Ptp.isoUp
  rw [run_bind, run_look, cell_last]
  by_cases hzero : t.count = 0
  · rw [if_pos hzero, if_pos hzero]
    rfl
  · rw [if_neg hzero, if_neg hzero, run_bind, position_run]
    cases t.find ev with
    | none => rfl
    | some i => exact next_run t i _

theorem isoDown_run (t : Table isoCountMax) (ev : Nat) :
    (isoDown t.count ev).run (cell t) = Ptp.isoDown t ev := by
  unfold isoDown Ptp.isoDown
  by_cases hzero : t.count = 0
  · rw [if_pos hzero, if_pos hzero]
    rfl
  · rw [if_neg hzero, if_neg hzero, run_bind, position_run]
    cases hfind : t.find ev with
    | none => rfl
    | some i =>
        simp only [Option.map_some]
        by_cases hpos : 0 < i
        · rw [if_pos (Int.natCast_pos.mpr hpos), if_pos hpos, run_look, cell_pred t hpos]
        · rw [if_neg fun h => hpos (Int.natCast_pos.mp h), if_neg hpos]
          rfl

theorem apertureUp_run (c : Limits) (t : Table apertureCountMax) (ev : Nat) :
    (apertureUp c t.count ev).run (cell t) = Ptp.apertureUp t c.apertureMax ev := by
  unfold apertureUp Ptp.apertureUp
  rw [run_bind, run_look, cell_last, run_bind, position_run]
  cases t.find ev with
  | none => rfl
  | some i => exact next_run t i _

theorem apertureDown_run (c : Limits) (t : Table apertureCountMax) (ev : Nat) :
    (apertureDown c t.count ev).run (cell t) = Ptp.apertureDown t c.apertureMin ev := by
  unfold apertureDown Ptp.apertureDown
  rw [run_bind, run_bind, position_run]
  cases t.find ev with
  | none => rfl
  | some i =>
      simp only [Option.map_some]
      by_cases hpos : 0 < i
      · rw [if_pos (Int.natCast_pos.mpr hpos), if_pos hpos, run_bind, run_look, cell_pred t hpos]
        rfl
      · rw [if_neg fun h => hpos (Int.natCast_pos.mp h), if_neg hpos]
        rfl

end Tables

/-- The arrays. -/
inductive Array3
  | iso
  | shutter
  | aperture
deriving DecidableEq

/-- The functions that look at them, with the value they are called for. -/
inductive Accessor
  | isoMax
  | isoMin
  | apertureMax
  | apertureMin
  | apertureWideOpen
  | shutterMin
  | isoUp (ev : Nat)
  | isoDown (ev : Nat)
  | apertureUp (ev : Nat)
  | apertureDown (ev : Nat)
  | shutterUp (ev : Nat)
  | shutterDown (ev : Nat)
  | shutterType (ev : Nat)

/-- The array a function looks at. -/
def Accessor.array : Accessor → Array3
  | isoMax | isoMin | isoUp _ | isoDown _ => .iso
  | shutterMin | shutterUp _ | shutterDown _ | shutterType _ => .shutter
  | apertureMax | apertureMin | apertureWideOpen | apertureUp _ | apertureDown _ => .aperture

/-- The count beside an array. -/
def Counts.of (n : Counts) : Array3 → Nat
  | .iso => n.iso
  | .shutter => n.shutter
  | .aperture => n.aperture

/-- What a function does. -/
def Accessor.lookup (c : Limits) (n : Counts) : Accessor → Lookup
  | isoMax => Access.isoMax c n.iso
  | isoMin => Access.isoMin n.iso
  | apertureMax => Access.apertureMax c n.aperture
  | apertureMin => Access.apertureMin c n.aperture
  | apertureWideOpen => Access.apertureWideOpen
  | shutterMin => Access.shutterMin c n.shutter
  | isoUp ev => Access.isoUp c n.iso ev
  | isoDown ev => Access.isoDown n.iso ev
  | apertureUp ev => Access.apertureUp c n.aperture ev
  | apertureDown ev => Access.apertureDown c n.aperture ev
  | shutterUp ev => Access.shutterUp n.shutter ev
  | shutterDown ev => Access.shutterDown n.shutter ev
  | shutterType ev => Access.shutterType n.shutter ev

/-- An index of a listed value. -/
def Listed (count : Nat) (i : Int) : Prop := 0 ≤ i ∧ i < count

/-- What a function looks at depends on the counts for these. -/
def Accessor.Needs (n : Counts) : Accessor → Prop
  | isoUp _ => 0 < n.iso
  | apertureWideOpen | apertureUp _ | apertureDown _ => 0 < n.aperture
  | shutterMin => n.shutter = 0
  | _ => True

theorem upward_listed {count : Nat} : ∀ i ∈ upward count, Listed count i := by
  intro i hi
  rcases List.mem_map.mp hi with ⟨k, hk, rfl⟩
  have hlt := List.mem_range.mp hk
  unfold Listed
  omega

theorem downward_listed {count : Nat} : ∀ i ∈ downward count, Listed count i := by
  intro i hi
  rcases List.mem_map.mp hi with ⟨k, hk, rfl⟩
  have hlt := List.mem_range.mp hk
  unfold Listed
  omega

/-- A position is that of a listed value, and what comes after may look there. -/
theorem position_bind {count ev : Nat} {f : Option Int → Lookup}
    (hsome : ∀ i, Listed count i → (f (some i)).Within (Listed count))
    (hnone : (f none).Within (Listed count)) :
    (position count ev >>= f).Within (Listed count) := by
  refine within_search_bind _ upward_listed hnone fun i hi v a hpick => ?_
  split at hpick
  · cases hpick
    exact hsome i (upward_listed i hi)
  · cases hpick

theorem listed_zero {count : Nat} (h : 0 < count) : Listed count 0 := by
  unfold Listed
  omega

theorem listed_last {count : Nat} (h : 0 < count) : Listed count (count - 1) := by
  unfold Listed
  omega

/-- Looking up the next value after the last one has been looked at. -/
theorem next_within {count ev : Nat} {f : Nat → Lookup} (h : 0 < count)
    (hf : ∀ v, (f v).Within (Listed count)) :
    (do
      let tmp ← look ((count : Int) - 1)
      let found ← position count ev
      let tmp ← match found with
        | some i => if i < count - 1 then look (i + 1) else pure tmp
        | none => pure tmp
      f tmp : Lookup).Within (Listed count) := by
  refine within_bind (within_look (listed_last h)) fun tmp => ?_
  refine position_bind (fun i hi => ?_) (hf tmp)
  refine within_ite (fun hlt => within_bind (within_look ?_) hf) fun _ => hf tmp
  unfold Listed at hi ⊢
  omega

theorem shutterType_within (count ev : Nat) : (shutterType count ev).Within (Listed count) := by
  exact position_bind (fun i _ => within_pure _) (within_pure _)

/-- A function looks at listed values only, if what it needs is there. -/
theorem lookup_within (c : Limits) (n : Counts) (a : Accessor) (h : a.Needs n) :
    (a.lookup c n).Within (Listed (n.of a.array)) := by
  cases a with
  | isoMax =>
      refine within_ite (fun _ => ?_) fun _ => within_pure 0
      exact within_bind (within_scan plain downward_listed 0) fun _ => within_pure _
  | isoMin => exact within_bind (within_search _ upward_listed) fun _ => within_pure _
  | apertureMax =>
      refine within_ite (fun _ => ?_) fun _ => within_pure 0
      exact within_bind (within_scan plain downward_listed 0) fun _ => within_pure _
  | apertureMin =>
      refine within_ite (fun _ => ?_) fun _ => within_pure 0
      exact within_bind (within_scan plain upward_listed 0) fun _ => within_pure _
  | apertureWideOpen => exact within_look (listed_zero h)
  | shutterMin =>
      have hzero : n.shutter = 0 := h
      simp only [Accessor.lookup, Accessor.array, Counts.of, shutterMin, hzero]
      exact within_pure _
  | isoUp ev =>
      have hpos : 0 < n.iso := h
      simp only [Accessor.lookup, isoUp, if_neg (Nat.ne_of_gt hpos)]
      exact next_within hpos fun _ => within_pure _
  | isoDown ev =>
      refine within_ite (fun _ => within_pure ev) fun hne => ?_
      have hzero := listed_zero (Nat.pos_of_ne_zero hne)
      refine position_bind (fun i hi => ?_) (within_look hzero)
      refine within_ite (fun hpos => within_look ?_) fun _ => within_look hzero
      unfold Listed at hi ⊢
      omega
  | apertureUp ev => exact next_within h fun _ => within_pure _
  | apertureDown ev =>
      refine within_bind (within_look (listed_zero h)) fun tmp => ?_
      refine position_bind (fun i hi => ?_) (within_pure _)
      refine within_ite (fun hpos => within_bind (within_look ?_) fun _ => within_pure _)
        fun _ => within_pure _
      unfold Listed at hi ⊢
      omega
  | shutterUp ev =>
      refine within_ite (fun _ => within_pure 28) fun _ => ?_
      refine within_bind (within_ite (fun _ => ?_) fun _ => within_pure none) fun listed => ?_
      · exact within_search _ upward_listed
      · simp only
        split
        · exact within_pure _
        · exact within_pure _
        · refine within_bind (shutterType_within n.shutter ev) fun type => ?_
          refine within_ite (fun _ => within_pure _) fun _ => ?_
          exact within_ite (fun hpos => within_look (listed_last hpos)) fun _ => within_pure _
  | shutterDown ev =>
      refine within_ite (fun _ => within_pure 28) fun _ => ?_
      refine within_bind (within_search _ upward_listed) fun listed => ?_
      split
      · exact within_pure _
      · exact within_pure _
      · refine within_ite (fun _ => within_pure _) fun _ => ?_
        refine within_bind (shutterType_within n.shutter ev) fun type => ?_
        refine within_ite (fun _ => within_pure _) fun _ => ?_
        exact within_ite (fun hpos => within_look (listed_zero hpos)) fun _ => within_pure _
  | shutterType ev => exact shutterType_within n.shutter ev

/-- The functions depend on the listed values only, the fastest shutter is the last plain
    one of these, and nothing else is looked at. -/
structure CurrentOnly (c : Limits) (n : Counts) : Prop where
  same : ∀ (a : Accessor) (mem mem' : Int → Nat),
    (∀ i, Listed (n.of a.array) i → mem i = mem' i) →
      (a.lookup c n).run mem = (a.lookup c n).run mem'
  considers : ∀ (mem : Int → Nat) (i : Int), Listed n.shutter i → plain (mem i) = true →
    (∀ j, i < j → Listed n.shutter j → plain (mem j) = false) →
      (shutterMin c n.shutter).run mem = mem i
  inside : ∀ (a : Accessor) (mem : Int → Nat), ∀ i ∈ (a.lookup c n).touched mem,
    Listed (n.of a.array) i

/-- The search for the fastest shutter starts behind the listed values. -/
theorem shutterMin_touched (c : Limits) {count : Nat} (h : 0 < count) (mem : Int → Nat) :
    (count : Int) ∈ (shutterMin c count).touched mem := by
  rcases Nat.exists_eq_add_of_lt h with ⟨k, hk⟩
  rw [Nat.zero_add] at hk
  subst hk
  unfold shutterMin
  rw [List.range_succ_eq_map, List.map_cons]
  exact List.mem_cons.mpr (Or.inl (Int.sub_zero _).symm)

/-- All of the functions look at listed values only, exactly when there is no shutter listed,
    and a sensitivity and an aperture are. -/
theorem currentOnly_iff (c : Limits) (n : Counts) :
    CurrentOnly c n ↔ n.shutter = 0 ∧ 0 < n.iso ∧ 0 < n.aperture := by
  constructor
  · intro h
    refine ⟨?_, ?_, ?_⟩
    · by_contra hne
      have hlast := shutterMin_touched c (Nat.pos_of_ne_zero hne) fun _ => 0
      exact absurd (h.inside .shutterMin _ _ hlast).2 (lt_irrefl _)
    · -- The entry in front of the array is looked at, though nothing is made of it.
      by_contra hne
      have hzero : n.iso = 0 := Nat.eq_zero_of_not_pos hne
      have hfirst := h.inside (.isoUp 0) (fun _ => 0) (n.iso - 1) List.mem_cons_self
      have hlow := hfirst.1
      omega
    · by_contra hne
      have hfirst := h.inside .apertureWideOpen (fun _ => 0) 0 List.mem_cons_self
      exact hne (Int.natCast_pos.mp hfirst.2)
  · rintro ⟨hshutter, hiso, haperture⟩
    have hneeds : ∀ a : Accessor, a.Needs n := by
      intro a
      cases a with
      | isoUp => exact hiso
      | apertureWideOpen => exact haperture
      | apertureUp => exact haperture
      | apertureDown => exact haperture
      | shutterMin => exact hshutter
      | _ => trivial
    have hinside : ∀ (a : Accessor) (mem : Int → Nat), ∀ i ∈ (a.lookup c n).touched mem,
        Listed (n.of a.array) i :=
      fun a mem => (lookup_within c n a (hneeds a)).touched mem
    refine ⟨fun a mem mem' hsame => ?_, fun mem i hi => ?_, hinside⟩
    · exact run_congr _ fun i hi => hsame i (hinside a mem i hi)
    · have hlow := hi.1
      have hhigh := hi.2
      rw [hshutter] at hhigh
      omega

/-- One shutter is listed. The fastest is the entry after it, whatever was left there. -/
theorem stale_shutter : ∃ (c : Limits) (n : Counts) (mem mem' : Int → Nat),
    (∀ i, Listed n.shutter i → mem i = mem' i) ∧
      (shutterMin c n.shutter).run mem ≠ (shutterMin c n.shutter).run mem' := by
  refine ⟨⟨10, 31, 2, 56⟩, ⟨1, 1, 1, by decide, by decide, by decide⟩, fun _ => 50,
    fun i => if i = 1 then 40 else 50, fun i hi => ?_, by decide⟩
  have hhigh : i < 1 := hi.2
  exact (if_neg (by omega)).symm

end Access

end Ptp

end TimelapsePlus
