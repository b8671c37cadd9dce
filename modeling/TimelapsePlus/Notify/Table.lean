import Mathlib.Data.List.FinRange
import Mathlib.Logic.Function.Basic
import TimelapsePlus.Lib.Writes

/-!
# The Table of Watched Items

`Notify` keeps a table of fifteen entries. `watch` first takes away any entry for the
same id and handler, and then puts the new one into the first that is not active.
The three functions `unWatch` take away all entries with an id, with a handler, or
with both, by making them inactive. What is in an inactive entry is never looked at.

So there is no more than one active entry for an id and a handler, and whether there
is one is decided by the last call that concerns the two, be it a `watch` for them or
an `unWatch` that matches them. A `watch` finds no room only when all entries are
active for others, and that is never so when there is an entry it takes away itself.

A handler is a pointer to a function, and is only ever compared.

## Main definitions

* `WatchedItem`, `Notify`: An entry, and the table.
* `chksums`: The two sums over the bytes of an item.
* `watch`, `unWatchId`, `unWatchPair`, `unWatchHandler`: The functions of the source.
* `Call`, `call`: The calls.
* `For`, `Active`: There is an active entry for an id and a handler.
* `Call.Concerns`, `Call.Watches`: What a call does to a pair.
* `Single`: There is no more than one entry for a pair.

## Theorems

* `watch_room`: When a `watch` finds room.
* `call_keeps`, `call_sets`: What a call makes of a pair.
* `call_single`: A call keeps the pairs single.
* `calls_table`: The table after any sequence of calls.
-/

namespace TimelapsePlus

namespace Notify

/-- `watched_item_struct`. -/
structure WatchedItem (H : Type) where
  item : Nat
  chksum : UInt8
  chkxsum : UInt8
  handler : H
  size : UInt8
  active : Bool
  id : UInt8

/-- `MAX_ITEMS_WATCHED`. -/
def maxItemsWatched : Nat := 15

end Notify

/-- The class `Notify`. -/
structure Notify (H : Type) where
  watchedItems : Fin Notify.maxItemsWatched → Notify.WatchedItem H

namespace Notify

section Table

variable {H : Type}

/-- The bytes of an item. -/
def content (mem : Nat → UInt8) (item : Nat) (size : UInt8) : List UInt8 :=
  (List.range size.toNat).map fun x => mem (item + x)

/-- The sum and the exclusive or of some bytes, as the loops of the source make them. -/
def chksums (bytes : List UInt8) : UInt8 × UInt8 :=
  bytes.foldl (fun s b => (s.1 + b, s.2 ^^^ b)) (0, 0)

/-- The table at the start: all of it is zero. -/
def zero (null : H) : Notify H := ⟨fun _ => ⟨0, 0, 0, null, 0, false, 0⟩⟩

/-- The active entries that match become inactive. -/
def unWatchWhere (t : Notify H) (p : WatchedItem H → Bool) : Notify H :=
  ⟨fun i =>
    if (t.watchedItems i).active && p (t.watchedItems i) then
      { t.watchedItems i with active := false }
    else t.watchedItems i⟩

/-- The first entry that is not active. -/
def free (t : Notify H) : Option (Fin maxItemsWatched) :=
  (List.finRange maxItemsWatched).find? fun i => !(t.watchedItems i).active

/-- An entry is put where there is room, if there is any. -/
def place (t : Notify H) (w : WatchedItem H) : Notify H × Bool :=
  match t.free with
  | some i => (⟨Function.update t.watchedItems i w⟩, true)
  | none => (t, false)

/-- The entry is active, for this id and this handler. -/
def For (t : Notify H) (id : UInt8) (handler : H) (i : Fin maxItemsWatched) : Prop :=
  (t.watchedItems i).active = true ∧ (t.watchedItems i).id = id ∧
    (t.watchedItems i).handler = handler

/-- There is an active entry for an id and a handler. -/
def Active (t : Notify H) (id : UInt8) (handler : H) : Prop := ∃ i, t.For id handler i

/-- There is no more than one. -/
def Single (t : Notify H) : Prop :=
  ∀ id handler i j, t.For id handler i → t.For id handler j → i = j

variable {t : Notify H} {id : UInt8} {handler : H} {p : WatchedItem H → Bool}
  {w : WatchedItem H} {i : Fin maxItemsWatched}

/-- What is left after an `unWatch`: the entries that do not match. -/
theorem for_unWatchWhere :
    (t.unWatchWhere p).For id handler i ↔
      t.For id handler i ∧ p (t.watchedItems i) = false := by
  unfold For unWatchWhere
  simp only
  by_cases hmatch : ((t.watchedItems i).active && p (t.watchedItems i)) = true
  · rw [if_pos hmatch]
    rw [Bool.and_eq_true] at hmatch
    simp only [Bool.false_eq_true, false_and, false_iff, not_and, Bool.not_eq_false]
    intro _
    exact hmatch.2
  · rw [if_neg hmatch]
    constructor
    · intro h
      refine ⟨h, ?_⟩
      rw [h.1, Bool.true_and] at hmatch
      exact Bool.not_eq_true _ ▸ hmatch
    · exact fun h => h.1

/-- An `unWatch` that matches none of the entries of a pair leaves them. -/
theorem for_unWatchWhere_of_not
    (hp : ∀ w : WatchedItem H, w.id = id → w.handler = handler → p w = false) :
    (t.unWatchWhere p).For id handler i ↔ t.For id handler i := by
  rw [for_unWatchWhere]
  exact ⟨fun h => h.1, fun h => ⟨h, hp _ h.2.1 h.2.2⟩⟩

/-- One that matches all of them leaves none. -/
theorem not_for_unWatchWhere
    (hp : ∀ w : WatchedItem H, w.id = id → w.handler = handler → p w = true) :
    ¬ (t.unWatchWhere p).For id handler i := by
  rw [for_unWatchWhere]
  rintro ⟨hfor, hnot⟩
  rw [hp _ hfor.2.1 hfor.2.2] at hnot
  cases hnot

/-- The entry that is free is not active. -/
theorem free_inactive (h : t.free = some i) : (t.watchedItems i).active = false := by
  have hnot := List.find?_some h
  rwa [Bool.not_eq_true'] at hnot

/-- There is none only when all are active. -/
theorem free_eq_none (h : t.free = none) (i : Fin maxItemsWatched) :
    (t.watchedItems i).active = true := by
  have hall := List.find?_eq_none.mp h i (List.mem_finRange i)
  rwa [Bool.not_eq_true', Bool.not_eq_false] at hall

theorem place_of_free (h : t.free = some i) :
    t.place w = (⟨Function.update t.watchedItems i w⟩, true) := by
  unfold place
  rw [h]

theorem place_of_full (h : t.free = none) : t.place w = (t, false) := by
  unfold place
  rw [h]

/-- There is room exactly when some entry is not active. -/
theorem place_room : (t.place w).2 = true ↔ ∃ i, (t.watchedItems i).active = false := by
  cases hfree : t.free with
  | some i =>
      rw [place_of_free hfree]
      exact iff_of_true rfl ⟨i, free_inactive hfree⟩
  | none =>
      rw [place_of_full hfree]
      refine iff_of_false Bool.false_ne_true ?_
      rintro ⟨i, hi⟩
      rw [free_eq_none hfree i] at hi
      cases hi

/-- The entries after one has been put into the table. -/
theorem for_place (hw : w.active = true) :
    (t.place w).1.For id handler i ↔
      t.For id handler i ∨ t.free = some i ∧ w.id = id ∧ w.handler = handler := by
  cases hfree : t.free with
  | none =>
      rw [place_of_full hfree]
      simp only [reduceCtorEq, false_and, or_false]
  | some j =>
      rw [place_of_free hfree]
      simp only [For]
      by_cases hij : i = j
      · -- What was in the free entry was not active.
        have hold := free_inactive hfree
        rw [hij, Function.update_self, hold]
        simp only [hw, true_and, Bool.false_eq_true, false_and, false_or]
      · have hne : some j ≠ some i := fun h => hij (Option.some.inj h).symm
        rw [Function.update_of_ne hij]
        simp only [hne, false_and, or_false]

end Table

section Calls

variable {H : Type} [DecidableEq H]

/-- `Notify::unWatch(id)`. -/
def unWatchId (t : Notify H) (id : UInt8) : Notify H := t.unWatchWhere fun w => w.id == id

/-- `Notify::unWatch(id, handler)`. -/
def unWatchPair (t : Notify H) (id : UInt8) (handler : H) : Notify H :=
  t.unWatchWhere fun w => w.id == id && decide (w.handler = handler)

/-- `Notify::unWatch(handler)`. -/
def unWatchHandler (t : Notify H) (handler : H) : Notify H :=
  t.unWatchWhere fun w => decide (w.handler = handler)

/-- `Notify::watch`, and whether it has found room. -/
def watch (t : Notify H) (mem : Nat → UInt8) (id : UInt8) (item : Nat) (size : UInt8)
    (handler : H) : Notify H × Bool :=
  let sums := chksums (content mem item size)
  (t.unWatchPair id handler).place ⟨item, sums.1, sums.2, handler, size, true, id⟩

/-- The calls. A `watch` looks at the memory. -/
inductive Call (H : Type)
  | watch (mem : Nat → UInt8) (id : UInt8) (item : Nat) (size : UInt8) (handler : H)
  | unWatchId (id : UInt8)
  | unWatchPair (id : UInt8) (handler : H)
  | unWatchHandler (handler : H)

/-- A call. -/
def call (t : Notify H) : Call H → Notify H
  | .watch mem id item size handler => (t.watch mem id item size handler).1
  | .unWatchId id => t.unWatchId id
  | .unWatchPair id handler => t.unWatchPair id handler
  | .unWatchHandler handler => t.unWatchHandler handler

omit [DecidableEq H] in
/-- The call is about this id and this handler, among others. -/
def Call.Concerns (id : UInt8) (handler : H) : Call H → Prop
  | .watch _ id' _ _ handler' => id' = id ∧ handler' = handler
  | .unWatchId id' => id' = id
  | .unWatchPair id' handler' => id' = id ∧ handler' = handler
  | .unWatchHandler handler' => handler' = handler

/-- The call is a `watch` that finds room. -/
def Call.Watches (t : Notify H) : Call H → Prop
  | .watch mem id item size handler => (t.watch mem id item size handler).2 = true
  | _ => False

variable {t : Notify H} {id : UInt8} {handler : H} {i : Fin maxItemsWatched}

/-- An `unWatch` for the pair leaves no entry for it. -/
theorem not_for_unWatchPair : ¬ (t.unWatchPair id handler).For id handler i :=
  not_for_unWatchWhere fun w hid hhandler => by
    rw [hid, hhandler, BEq.rfl, Bool.true_and, decide_eq_true_eq]

/-- It leaves the entries for all others. -/
theorem for_unWatchPair_of_not {id' : UInt8} {handler' : H}
    (hne : ¬ (id' = id ∧ handler' = handler)) :
    (t.unWatchPair id' handler').For id handler i ↔ t.For id handler i := by
  refine for_unWatchWhere_of_not fun w hid hhandler => ?_
  rw [hid, hhandler, Bool.and_eq_false_iff, beq_eq_false_iff_ne, decide_eq_false_iff_not]
  by_cases heq : id = id'
  · exact Or.inr fun h => hne ⟨heq.symm, h.symm⟩
  · exact Or.inl heq

/-- A `watch` for a pair that is active finds room. -/
theorem watch_room (h : t.Active id handler) (mem : Nat → UInt8) (item : Nat) (size : UInt8) :
    (t.watch mem id item size handler).2 = true := by
  rcases h with ⟨i, hi⟩
  refine place_room.mpr ⟨i, ?_⟩
  -- The entry of the pair itself is what becomes free.
  have hmatch : ((t.watchedItems i).active &&
      ((t.watchedItems i).id == id && decide ((t.watchedItems i).handler = handler))) = true := by
    rw [hi.1, hi.2.1, hi.2.2, BEq.rfl, Bool.true_and, Bool.true_and, decide_eq_true_eq]
  unfold unWatchPair unWatchWhere
  simp only [hmatch, if_true]

/-- A call that does not concern a pair leaves its entries as they are. -/
theorem for_call_of_not {c : Call H} (hc : ¬ c.Concerns id handler) :
    (t.call c).For id handler i ↔ t.For id handler i := by
  cases c with
  | watch mem id' item size handler' =>
      -- Neither what it takes away nor what it puts in is for the pair.
      refine (for_place rfl).trans ?_
      rw [for_unWatchPair_of_not hc]
      exact ⟨fun h => h.resolve_right fun h => hc h.2, Or.inl⟩
  | unWatchId id' =>
      show (t.unWatchId id').For id handler i ↔ _
      refine for_unWatchWhere_of_not fun w hid _ => ?_
      rw [hid, beq_eq_false_iff_ne]
      exact fun h => hc h.symm
  | unWatchPair id' handler' => exact for_unWatchPair_of_not hc
  | unWatchHandler handler' =>
      show (t.unWatchHandler handler').For id handler i ↔ _
      refine for_unWatchWhere_of_not fun w _ hhandler => ?_
      rw [hhandler, decide_eq_false_iff_not]
      exact fun h => hc h.symm

/-- After one that concerns it there is an entry where a `watch` has put it, and no
    other. -/
theorem for_call {c : Call H} (hc : c.Concerns id handler) :
    (t.call c).For id handler i ↔
      c.Watches t ∧ (t.unWatchPair id handler).free = some i := by
  cases c with
  | watch mem id' item size handler' =>
      rcases hc with ⟨rfl, rfl⟩
      refine (for_place rfl).trans ?_
      constructor
      · intro h
        have hfree := (h.resolve_left not_for_unWatchPair).1
        exact ⟨place_room.mpr ⟨i, free_inactive hfree⟩, hfree⟩
      · exact fun h => Or.inr ⟨h.2, rfl, rfl⟩
  | unWatchId id' =>
      have heq : id' = id := hc
      refine iff_of_false ?_ fun h => h.1
      show ¬ (t.unWatchId id').For id handler i
      refine not_for_unWatchWhere fun w hid _ => ?_
      rw [hid, heq, BEq.rfl]
  | unWatchPair id' handler' =>
      rcases hc with ⟨rfl, rfl⟩
      exact iff_of_false not_for_unWatchPair fun h => h.1
  | unWatchHandler handler' =>
      have heq : handler' = handler := hc
      refine iff_of_false ?_ fun h => h.1
      show ¬ (t.unWatchHandler handler').For id handler i
      refine not_for_unWatchWhere fun w _ hhandler => ?_
      rw [hhandler, heq, decide_eq_true_eq]

/-- A call that does not concern a pair leaves it as active as it is. -/
theorem call_keeps (t : Notify H) (c : Call H) (hc : ¬ c.Concerns id handler) :
    (t.call c).Active id handler ↔ t.Active id handler :=
  exists_congr fun _ => for_call_of_not hc

/-- One that concerns it makes it active exactly when it is a `watch` that finds room. -/
theorem call_sets (t : Notify H) (c : Call H) (hc : c.Concerns id handler) :
    (t.call c).Active id handler ↔ c.Watches t := by
  unfold Active
  simp only [for_call hc, exists_and_left]
  refine and_iff_left_of_imp fun hwatch => ?_
  cases c with
  | watch mem id' item size handler' =>
      rcases hc with ⟨rfl, rfl⟩
      rcases place_room.mp hwatch with ⟨i, hi⟩
      cases hfree : (t.unWatchPair id' handler').free with
      | some j => exact ⟨j, rfl⟩
      | none =>
          -- There was room, so an entry was free.
          rw [free_eq_none hfree i] at hi
          cases hi
  | unWatchId _ => exact hwatch.elim
  | unWatchPair _ _ => exact hwatch.elim
  | unWatchHandler _ => exact hwatch.elim

/-- A call keeps the pairs single. -/
theorem call_single (h : t.Single) (c : Call H) : (t.call c).Single := by
  intro id handler i j hi hj
  by_cases hc : c.Concerns id handler
  · -- Both entries would be the one the call has put in.
    have hfi := ((for_call hc).mp hi).2
    have hfj := ((for_call hc).mp hj).2
    exact Option.some.inj (hfi.symm.trans hfj)
  · exact h id handler i j ((for_call_of_not hc).mp hi) ((for_call_of_not hc).mp hj)

/-- In a table that has gone through any calls there is no more than one active entry for an
    id and a handler. There is one exactly when the last call that concerns the two was a
    `watch` that found room, and then another `watch` finds room, too. -/
theorem calls_table (null : H) (cs : List (Call H)) :
    (cs.foldl call (zero null)).Single ∧
      ∀ id handler,
        ((cs.foldl call (zero null)).Active id handler ↔
          Writes.LastSets call (Call.Concerns id handler) Call.Watches (zero null) cs) ∧
        ((cs.foldl call (zero null)).Active id handler → ∀ mem item size,
          ((cs.foldl call (zero null)).watch mem id item size handler).2 = true) := by
  have hzero : ∀ id handler, ¬ (zero null).Active id handler := by
    rintro id handler ⟨i, hi⟩
    exact absurd hi.1 Bool.false_ne_true
  constructor
  · refine List.foldlRecOn cs call ?_ fun t ht c _ => call_single ht c
    intro id handler i j hi
    exact absurd ⟨i, hi⟩ (hzero id handler)
  · intro id handler
    refine ⟨Writes.flag_iff_lastSets (fun t => t.Active id handler)
      (fun t c hc => call_keeps t c hc) (fun t c hc => call_sets t c hc) (hzero id handler) cs, ?_⟩
    exact fun h mem item size => watch_room h mem item size

end Calls

end Notify

end TimelapsePlus
