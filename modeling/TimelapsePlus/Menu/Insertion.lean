import TimelapsePlus.Menu.KeyframeEditor

/-!
# Putting Keyframes In and Taking Them Out

The editor's two functions on the array they work on. A group has room for ten
keyframes and takes nine. A new one goes in front of the first that is not earlier, and
the loop that makes room for it begins at the place after the one the last keyframe
goes to: it copies an entry that is not in use, and the tenth place is there for it.

What a new keyframe is given as its number counts from one; the functions count from
zero.

## Main definitions

* `addKeyframeLoop`, `removeKeyframeLoop`: The functions, with their loops.
* `inserted`: A group with a keyframe put in.
* `Sorted`: No keyframe is before the one in front of it.

## Theorems

* `addKeyframeLoop_eq`, `removeKeyframeLoop_eq`: The loops stay within the array, and
  leave what the editor is modelled with.
* `inserted_sorted`: A sorted group stays sorted.
* `addKeyframe_removeKeyframe`: What is put in is where it belongs, and can be taken out
  again.
-/

namespace TimelapsePlus

namespace Menu

open Word Shutter Gap

/-- No keyframe is before the one in front of it. -/
def Sorted (g : Group) : Prop := ∀ i, i + 1 < g.count → g.ms i ≤ g.ms (i + 1)

/-- The search of `addKeyframe` from `i` on, with as many keyframes still to be looked
    at. Where it ends room is made and the keyframe put in. -/
def addKeyframeFrom (g : Group) (value : Int) (ms i : Nat) : Nat → Option (Group × Nat)
  | 0 => some (g, 0)
  | n + 1 =>
    if i < maxKeyframes then
      if ms ≤ g.ms i then
        (openGap maxKeyframes g.keyframes i (g.count + 1 - i)).map fun a =>
          ({ g with
            keyframes := Function.update a i ⟨value, u32 ms, u32_lt ms⟩
            count := g.count + 1 }, i + 1)
      else addKeyframeFrom g value ms (i + 1) n
    else none

/-- `MENU::addKeyframe`, with the accesses it makes. -/
def addKeyframeLoop (g : Group) (value : Int) (ms : Nat) : Option (Group × Nat) :=
  if maxKeyframes - 1 ≤ g.count then some (g, 0) else addKeyframeFrom g value ms 0 g.count

/-- `MENU::removeKeyframe`, with the accesses it makes and the number it returns. -/
def removeKeyframeLoop (g : Group) (index : Nat) : Option (Group × Nat) :=
  if g.count ≤ index ∨ g.count ≤ 2 ∨ index = 0 ∨ index = g.count - 1 then some (g, 0)
  else (closeGap maxKeyframes g.keyframes index (g.count - 1 - index)).map fun a =>
    ({ g with keyframes := a, count := g.count - 1 }, g.count - 1)

/-- A group with a keyframe put in. -/
def inserted (g : Group) (value : Int) (ms i : Nat) : Group :=
  { g with
    keyframes := fun k =>
      if k < i then g.keyframes k
      else if k = i then ⟨value, u32 ms, u32_lt ms⟩
      else if k ≤ g.count + 1 then g.keyframes (k - 1)
      else g.keyframes k
    count := g.count + 1 }

variable {g : Group}

/-- The gap is opened and filled. -/
theorem opened_eq (hspace : g.count < 9) (value : Int) (ms : Nat) {i : Nat} (hi : i ≤ g.count) :
    ((openGap maxKeyframes g.keyframes i (g.count + 1 - i)).map fun a =>
      ({ g with
        keyframes := Function.update a i ⟨value, u32 ms, u32_lt ms⟩
        count := g.count + 1 } : Group)) = some (inserted g value ms i) := by
  rw [openGap_eq _ _ _ (by unfold maxKeyframes; omega), Option.map_some]
  have hkeyframes : Function.update
      (fun k => if i < k ∧ k ≤ i + (g.count + 1 - i) then g.keyframes (k - 1) else g.keyframes k) i
      ⟨value, u32 ms, u32_lt ms⟩ = (inserted g value ms i).keyframes := by
    refine funext fun k => ?_
    unfold inserted
    -- In front of the gap, in it, and behind it.
    rcases Nat.lt_trichotomy k i with hlt | rfl | hgt
    · rw [Function.update_of_ne (by omega), if_neg (by omega)]
      exact (if_pos hlt).symm
    · rw [Function.update_self]
      exact ((if_neg (Nat.lt_irrefl k)).trans (if_pos rfl)).symm
    · rw [Function.update_of_ne (by omega)]
      refine Eq.trans ?_ ((if_neg (by omega)).trans (if_neg (by omega))).symm
      by_cases hk : k ≤ g.count + 1
      · rw [if_pos (by omega), if_pos hk]
      · rw [if_neg (by omega), if_neg hk]
  rw [hkeyframes]
  rfl

/-- The search finds the first keyframe that is not earlier. -/
theorem addKeyframeFrom_eq (hspace : g.count < 9) (value : Int) (ms i n : Nat)
    (hn : i + n = g.count) :
    addKeyframeFrom g value ms i n =
      some (match (List.range' i n).find? fun k => ms ≤ g.ms k with
        | some k => (inserted g value ms k, k + 1)
        | none => (g, 0)) := by
  induction n generalizing i with
  | zero => rfl
  | succ n ih =>
      rw [addKeyframeFrom, if_pos (by unfold maxKeyframes; omega), List.range'_succ,
        List.find?_cons]
      by_cases hle : ms ≤ g.ms i
      · rw [if_pos hle, decide_eq_true hle]
        have hopened := opened_eq hspace value ms (by omega : i ≤ g.count)
        rcases Option.map_eq_some_iff.mp hopened with ⟨a, ha, hgroup⟩
        rw [ha, Option.map_some, hgroup]
      · rw [if_neg hle, decide_eq_false hle]
        exact ih (i + 1) (by omega)

/-- The loops of `addKeyframe` stay within the array. -/
theorem addKeyframeLoop_eq (g : Group) (value : Int) (ms : Nat) :
    addKeyframeLoop g value ms = some (addKeyframe g value ms) := by
  unfold addKeyframeLoop addKeyframe
  by_cases hfull : maxKeyframes - 1 ≤ g.count
  · rw [if_pos hfull, if_pos hfull]
  · rw [if_neg hfull, if_neg hfull]
    unfold maxKeyframes at hfull
    rw [addKeyframeFrom_eq (by omega) value ms 0 g.count (Nat.zero_add _), List.range_eq_range']
    rfl

/-- The loop of `removeKeyframe` stays within the array. -/
theorem removeKeyframeLoop_eq (hten : g.count ≤ 10) (index : Nat) :
    (removeKeyframeLoop g index).map Prod.fst = some (removeKeyframe g index) := by
  unfold removeKeyframeLoop removeKeyframe
  by_cases hkept : g.count ≤ index ∨ g.count ≤ 2 ∨ index = 0 ∨ index = g.count - 1
  · rw [if_pos hkept, if_pos hkept, Option.map_some]
  · rw [if_neg hkept, if_neg hkept, closeGap_eq _ _ _ (by unfold maxKeyframes; omega),
      Option.map_some, Option.map_some, Nat.add_sub_cancel' (by omega)]

/-- A sorted group stays sorted when a keyframe is put in front of the first that is not
    earlier. -/
theorem inserted_sorted (hsorted : Sorted g) (value : Int) {ms i : Nat} (hi : i < g.count)
    (hms : ms ≤ g.ms i) (hbefore : ∀ j, j < i → g.ms j < ms) :
    Sorted (inserted g value ms i) := by
  have hword : u32 ms = ms := u32_of_lt (hms.trans_lt (g.keyframes i).ms_lt)
  have htimes : ∀ k, k ≤ g.count → (inserted g value ms i).ms k =
      if k < i then g.ms k else if k = i then ms else g.ms (k - 1) := by
    intro k hk
    unfold Group.ms inserted
    simp only
    split
    · rfl
    · split
      · exact hword
      · rw [if_pos (by omega)]
  intro k hk
  have hcount : k + 1 < g.count + 1 := hk
  rw [htimes k (by omega), htimes (k + 1) (by omega)]
  exact sorted_opened hsorted hi.le hms (fun j hj => (hbefore j hj).le) k hk

/-- The keyframes of a group with one put in. -/
theorem inserted_entries (value : Int) (ms : Nat) {i : Nat} (hi : i ≤ g.count) :
    entries (inserted g value ms i).keyframes (g.count + 1) =
      (entries g.keyframes g.count).insertIdx i ⟨value, u32 ms, u32_lt ms⟩ := by
  rw [← entries_opened _ _ hi]
  refine entries_congr fun k hk => ?_
  unfold inserted
  simp only
  split
  · rfl
  · split
    · rfl
    · rw [if_pos (by omega)]

/-- The keyframes of a group with one taken out. -/
theorem removeKeyframeLoop_entries (hten : g.count ≤ 10) {index : Nat} (hfirst : 0 < index)
    (hlast : index + 1 < g.count) : ∃ g', removeKeyframeLoop g index = some (g', g.count - 1) ∧
      g'.count = g.count - 1 ∧
      entries g'.keyframes g'.count = (entries g.keyframes g.count).eraseIdx index := by
  unfold removeKeyframeLoop
  rw [if_neg (by omega), closeGap_eq _ _ _ (by unfold maxKeyframes; omega)]
  refine ⟨_, rfl, rfl, ?_⟩
  have hclosed := entries_closed g.keyframes (by omega : index ≤ g.count - 1)
  rw [Nat.sub_add_cancel (by omega)] at hclosed
  rw [← hclosed]
  refine entries_congr fun k hk => ?_
  simp only at hk ⊢
  by_cases hlt : k < index
  · rw [if_neg (by omega), if_pos hlt]
  · rw [if_pos (by omega), if_neg hlt]

/-- A keyframe that is not after the last is put in where it belongs, unless the group is
    full, and can be taken out again unless it has become the first. -/
theorem addKeyframe_removeKeyframe (g : Group) (value : Int) (ms : Nat) (htwo : 2 ≤ g.count)
    (hnine : g.count ≤ 9) (hsorted : Sorted g) (hms : ms ≤ g.last.ms) :
    (g.count = 9 ∧ addKeyframeLoop g value ms = some (g, 0)) ∨
      (g.count < 9 ∧ ∃ g' i k, addKeyframeLoop g value ms = some (g', i + 1) ∧
        i < g.count ∧ g' = { g with keyframes := g'.keyframes, count := g.count + 1 } ∧
        Sorted g' ∧ k.value = value ∧ k.ms = ms ∧
        entries g'.keyframes g'.count = (entries g.keyframes g.count).insertIdx i k ∧
        (0 < i → i + 1 < g'.count → ∃ g'', removeKeyframeLoop g' i = some (g'', g.count) ∧
          g''.count = g.count ∧
          entries g''.keyframes g''.count = entries g.keyframes g.count)) := by
  by_cases hfull : g.count = 9
  · refine .inl ⟨hfull, ?_⟩
    rw [addKeyframeLoop, if_pos (by unfold maxKeyframes; omega)]
  · refine .inr ⟨by omega, ?_⟩
    have hlast : g.ms (g.count - 1) = g.last.ms := rfl
    cases hfind : (List.range g.count).find? fun i => ms ≤ g.ms i with
    | none =>
        -- The last keyframe is not earlier.
        rw [List.find?_range_eq_none] at hfind
        have hnot := hfind (g.count - 1) (by omega)
        simp only [Bool.not_eq_true', decide_eq_false_iff_not] at hnot
        omega
    | some i =>
        have hadd : addKeyframeLoop g value ms = some (inserted g value ms i, i + 1) := by
          rw [addKeyframeLoop_eq, addKeyframe, if_neg (by unfold maxKeyframes; omega), hfind]
          rfl
        -- It is put in front of the first that is not earlier.
        rw [List.find?_range_eq_some] at hfind
        simp only [decide_eq_true_eq, List.mem_range, Bool.not_eq_true',
          decide_eq_false_iff_not, not_le] at hfind
        rcases hfind with ⟨hle, hlt, hbefore⟩
        have hentries := inserted_entries value ms hlt.le
        refine ⟨inserted g value ms i, i, _, hadd, hlt, rfl,
          inserted_sorted hsorted value hlt hle hbefore, rfl,
          u32_of_lt (hle.trans_lt (g.keyframes i).ms_lt), hentries, fun hfirst hinner => ?_⟩
        -- Taking it out closes the gap that was opened for it.
        have hten : (inserted g value ms i).count ≤ 10 := Nat.succ_le_succ hnine
        rcases removeKeyframeLoop_entries hten hfirst hinner with ⟨g'', hremove, hcount, hrest⟩
        refine ⟨g'', hremove, hcount, hrest.trans ?_⟩
        rw [← List.eraseIdx_insertIdx_self (l := entries g.keyframes g.count)]
        exact congrArg (fun l => l.eraseIdx i) hentries

/-- An hour with a keyframe at its first minute. -/
def firstMinute : Group := (KeyframeEditor.ofTimes 60 0 [0, 60000, 3600000]).kf

/-- Another keyframe at that minute goes in front of the one that is there. -/
theorem addKeyframe_removeKeyframe_minute :
    (firstMinute.count = 9 ∧ addKeyframeLoop firstMinute 5 60000 = some (firstMinute, 0)) ∨
      (firstMinute.count < 9 ∧ ∃ g' i k, addKeyframeLoop firstMinute 5 60000 = some (g', i + 1) ∧
        i < firstMinute.count ∧
        g' = { firstMinute with keyframes := g'.keyframes, count := firstMinute.count + 1 } ∧
        Sorted g' ∧ k.value = 5 ∧ k.ms = 60000 ∧
        entries g'.keyframes g'.count =
          (entries firstMinute.keyframes firstMinute.count).insertIdx i k ∧
        (0 < i → i + 1 < g'.count → ∃ g'',
          removeKeyframeLoop g' i = some (g'', firstMinute.count) ∧
          g''.count = firstMinute.count ∧
          entries g''.keyframes g''.count = entries firstMinute.keyframes firstMinute.count)) := by
  have hsorted : Sorted firstMinute := by
    intro i hi
    have hcount : firstMinute.count = 3 := rfl
    rcases (by omega : i = 0 ∨ i = 1) with rfl | rfl
    · exact Nat.zero_le _
    · decide
  exact addKeyframe_removeKeyframe firstMinute 5 60000 (by decide) (by decide) hsorted (by decide)

end Menu

end TimelapsePlus
