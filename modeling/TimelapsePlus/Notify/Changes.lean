import Mathlib.Data.Nat.Bitwise
import TimelapsePlus.Notify.Table

/-!
# The Changes of a Watched Item

`Notify::task` goes over the active entries and adds up the bytes of each item, once
with `+` and once with `^`. When one of the sums is not the one of the entry, both
are stored and the handler is called with the id.

The sums of an entry are always those of the bytes at the last task, or at the watch.
So a handler is called exactly when the bytes have other sums than they had then. Two
bytes that change places have the same, and so have two counters of which one goes up
by one and the other down: the number of photos taken and the number remaining do
that, whenever the first is even and the second odd.

An item of one byte has its sums changed by any change.

A handler changes neither the table nor an item, and other calls may come between the
tasks as long as they do not concern the item.

## Main definitions

* `check`, `task`: The function of the source, for an entry and for the table.
* `Event`: What happens after a watch.
* `Follows`: The table has an entry with the sums of given bytes.
* `Faithful`: Every task calls the handler exactly when the item has changed.
* `Told`: No change of the item leaves both sums as they are.
* `statusBytes`: The bytes of `timer.status`, by its two counters.

## Theorems

* `task_calls`, `task_follows`: What a task does about an item.
* `notifies_iff`: When no change is missed.
* `told_of_byte`: It is so for an item of one byte.
* `counters_missed`: It is not for the counters.
* `status_missed`: The first of 501 photos is missed.
-/

namespace TimelapsePlus

namespace Notify

section Task

variable {H : Type}

/-- The sums of an entry are compared with those of its item. -/
def check (w : WatchedItem H) (mem : Nat → UInt8) : WatchedItem H × Bool :=
  let sums := chksums (content mem w.item w.size)
  if w.active then
    if sums.1 ≠ w.chksum ∨ sums.2 ≠ w.chkxsum then
      ({ w with chksum := sums.1, chkxsum := sums.2 }, true)
    else (w, false)
  else (w, false)

/-- `Notify::task`, and the handlers it calls with the ids. An entry is looked at and
    written to by itself alone. -/
def task (t : Notify H) (mem : Nat → UInt8) : Notify H × List (H × UInt8) :=
  (⟨fun i => (check (t.watchedItems i) mem).1⟩,
    (List.finRange maxItemsWatched).filterMap fun i =>
      if (check (t.watchedItems i) mem).2 then
        some ((t.watchedItems i).handler, (t.watchedItems i).id)
      else none)

/-- The table has one entry for the pair, on this item, with the sums of these bytes. -/
structure Follows (t : Notify H) (id : UInt8) (item : Nat) (size : UInt8) (handler : H)
    (last : List UInt8) (i : Fin maxItemsWatched) : Prop where
  here : t.For id handler i
  only : ∀ j, t.For id handler j → j = i
  item : (t.watchedItems i).item = item
  size : (t.watchedItems i).size = size
  sums : ((t.watchedItems i).chksum, (t.watchedItems i).chkxsum) = chksums last

/-- A task leaves an entry active, for the same pair and on the same item. -/
theorem check_keeps (w : WatchedItem H) (mem : Nat → UInt8) :
    (check w mem).1.active = w.active ∧ (check w mem).1.id = w.id ∧
      (check w mem).1.handler = w.handler ∧ (check w mem).1.item = w.item ∧
      (check w mem).1.size = w.size := by
  unfold check
  simp only
  split
  · split
    · exact ⟨rfl, rfl, rfl, rfl, rfl⟩
    · exact ⟨rfl, rfl, rfl, rfl, rfl⟩
  · exact ⟨rfl, rfl, rfl, rfl, rfl⟩

theorem for_task {t : Notify H} {mem : Nat → UInt8} {id : UInt8} {handler : H}
    {i : Fin maxItemsWatched} : (t.task mem).1.For id handler i ↔ t.For id handler i := by
  rcases check_keeps (t.watchedItems i) mem with ⟨hactive, hid, hhandler, -⟩
  unfold For task
  simp only [hactive, hid, hhandler]

/-- An active entry has the sums of its item after a task, and its handler is called when
    they are others than before. -/
theorem check_active {w : WatchedItem H} (mem : Nat → UInt8) (hw : w.active = true) :
    ((check w mem).1.chksum, (check w mem).1.chkxsum) = chksums (content mem w.item w.size) ∧
      ((check w mem).2 = true ↔
        chksums (content mem w.item w.size) ≠ (w.chksum, w.chkxsum)) := by
  unfold check
  simp only [hw, if_true]
  by_cases hsums : chksums (content mem w.item w.size) = (w.chksum, w.chkxsum)
  · rw [if_neg (by rw [hsums]; simp only [ne_eq, not_true_eq_false, or_self, not_false_eq_true])]
    exact ⟨hsums.symm, iff_of_false Bool.false_ne_true fun h => h hsums⟩
  · have hne : (chksums (content mem w.item w.size)).1 ≠ w.chksum ∨
        (chksums (content mem w.item w.size)).2 ≠ w.chkxsum := by
      by_contra hnot
      rw [not_or, not_not, not_not] at hnot
      exact hsums (Prod.ext hnot.1 hnot.2)
    rw [if_pos hne]
    exact ⟨rfl, iff_of_true rfl hsums⟩

variable {t : Notify H} {id : UInt8} {item : Nat} {size : UInt8} {handler : H}
  {last : List UInt8} {i : Fin maxItemsWatched}

/-- A task calls the handler exactly when the sums of the item are others. -/
theorem task_calls (h : t.Follows id item size handler last i) (mem : Nat → UInt8) :
    (handler, id) ∈ (t.task mem).2 ↔ chksums (content mem item size) ≠ chksums last := by
  have hcheck := (check_active mem h.here.1).2
  rw [h.item, h.size, h.sums] at hcheck
  rw [← hcheck]
  unfold task
  simp only [List.mem_filterMap, List.mem_finRange, true_and, Option.ite_none_right_eq_some,
    Option.some.injEq, Prod.mk.injEq]
  constructor
  · rintro ⟨j, hcalled, hhandler, hid⟩
    -- What is called is active, and there is only one entry for the pair.
    have hactive : (t.watchedItems j).active = true := by
      by_contra hnot
      unfold check at hcalled
      simp only [hnot, if_false, Bool.false_eq_true] at hcalled
    rw [← h.only j ⟨hactive, hid, hhandler⟩]
    exact hcalled
  · exact fun hcalled => ⟨i, hcalled, h.here.2.2, h.here.2.1⟩

/-- After it the entry has the sums of the item. -/
theorem task_follows (h : t.Follows id item size handler last i) (mem : Nat → UInt8) :
    (t.task mem).1.Follows id item size handler (content mem item size) i := by
  rcases check_keeps (t.watchedItems i) mem with ⟨-, -, -, hitem, hsize⟩
  have hsums := (check_active mem h.here.1).1
  rw [h.item, h.size] at hsums
  exact ⟨for_task.mpr h.here, fun j hj => h.only j (for_task.mp hj), hitem.trans h.item,
    hsize.trans h.size, hsums⟩

end Task

section Watch

variable {H : Type} [DecidableEq H]

/-- What happens after a watch: a task, with the memory it finds, or another call. -/
inductive Event (H : Type)
  | task (mem : Nat → UInt8)
  | call (c : Call H)

/-- Every task calls the handler exactly when the bytes of the item are not those they were
    at the last task. -/
def Faithful (id : UInt8) (item : Nat) (size : UInt8) (handler : H) :
    Notify H → List UInt8 → List (Event H) → Prop
  | _, _, [] => True
  | t, last, .call c :: es => Faithful id item size handler (t.call c) last es
  | t, last, .task mem :: es =>
      ((handler, id) ∈ (t.task mem).2 ↔ content mem item size ≠ last) ∧
        Faithful id item size handler (t.task mem).1 (content mem item size) es

omit [DecidableEq H] in
/-- No change of the bytes from one task to the next leaves both sums as they are. -/
def Told (item : Nat) (size : UInt8) : List UInt8 → List (Event H) → Prop
  | _, [] => True
  | last, .call _ :: es => Told item size last es
  | last, .task mem :: es =>
      (chksums (content mem item size) = chksums last → content mem item size = last) ∧
        Told item size (content mem item size) es

variable {t : Notify H} {id : UInt8} {item : Nat} {size : UInt8} {handler : H}
  {last : List UInt8} {i : Fin maxItemsWatched}

/-- A call that does not concern a pair leaves what is in its entry. -/
theorem entry_call_of_not {c : Call H} (hc : ¬ c.Concerns id handler) (hi : t.For id handler i) :
    (t.call c).watchedItems i = t.watchedItems i := by
  -- An active entry is only ever changed by a match.
  have hkeep : ∀ p : WatchedItem H → Bool, (t.unWatchWhere p).For id handler i →
      (t.unWatchWhere p).watchedItems i = t.watchedItems i := by
    intro p hp
    refine if_neg ?_
    rw [(for_unWatchWhere.mp hp).2, Bool.and_false]
    exact Bool.false_ne_true
  have hfor := (for_call_of_not hc).mpr hi
  cases c with
  | watch mem id' item' size' handler' =>
      have hpair := (for_unWatchPair_of_not hc).mpr hi
      rw [← hkeep _ hpair]
      unfold call watch
      cases hfree : (t.unWatchPair id' handler').free with
      | none =>
          simp only [place_of_full hfree]
          rfl
      | some j =>
          simp only [place_of_free hfree]
          refine Function.update_of_ne (fun hij => ?_) _ _
          -- What is free is not active.
          have hactive := hpair.1
          rw [hij, free_inactive hfree] at hactive
          cases hactive
  | unWatchId id' => exact hkeep (fun w => w.id == id') hfor
  | unWatchPair id' handler' =>
      exact hkeep (fun w => w.id == id' && decide (w.handler = handler')) hfor
  | unWatchHandler handler' => exact hkeep (fun w => decide (w.handler = handler')) hfor

theorem call_follows {c : Call H} (hc : ¬ c.Concerns id handler)
    (h : t.Follows id item size handler last i) :
    (t.call c).Follows id item size handler last i := by
  have hentry := entry_call_of_not hc h.here
  refine ⟨(for_call_of_not hc).mpr h.here, fun j hj => h.only j ((for_call_of_not hc).mp hj), ?_,
    ?_, ?_⟩
  · rw [hentry]
    exact h.item
  · rw [hentry]
    exact h.size
  · rw [hentry]
    exact h.sums

/-- A watch that finds room makes an entry with the sums of the bytes. -/
theorem watch_follows {mem : Nat → UInt8} (hroom : (t.watch mem id item size handler).2 = true) :
    ∃ i, (t.watch mem id item size handler).1.Follows id item size handler
      (content mem item size) i := by
  rcases place_room.mp hroom with ⟨j, hj⟩
  cases hfree : (t.unWatchPair id handler).free with
  | none =>
      rw [free_eq_none hfree j] at hj
      cases hj
  | some i =>
      have hconcerns : (Call.watch mem id item size handler).Concerns id handler := ⟨rfl, rfl⟩
      have hwatches : (Call.watch mem id item size handler).Watches t := hroom
      have hentry : (t.watch mem id item size handler).1.watchedItems i =
          ⟨item, (chksums (content mem item size)).1, (chksums (content mem item size)).2, handler,
            size, true, id⟩ := by
        unfold watch
        simp only [place_of_free hfree, Function.update_self]
      refine ⟨i, (for_call hconcerns).mpr ⟨hwatches, hfree⟩, fun k hk => ?_, ?_, ?_, ?_⟩
      · exact Option.some.inj (((for_call hconcerns).mp hk).2.symm.trans hfree)
      · rw [hentry]
      · rw [hentry]
      · rw [hentry]

/-- From a table that follows an item no change is missed exactly when each changes a
    sum. -/
theorem follows_told_iff (h : t.Follows id item size handler last i) {es : List (Event H)}
    (hes : ∀ c, .call c ∈ es → ¬ c.Concerns id handler) :
    Faithful id item size handler t last es ↔ Told item size last es := by
  induction es generalizing t last with
  | nil => exact Iff.rfl
  | cons e es ih =>
      have hrest : ∀ c, .call c ∈ es → ¬ c.Concerns id handler :=
        fun c hc => hes c (List.mem_cons_of_mem e hc)
      cases e with
      | call c => exact ih (call_follows (hes c List.mem_cons_self) h) hrest
      | task mem =>
          refine and_congr ?_ (ih (task_follows h mem) hrest)
          rw [task_calls h mem]
          constructor
          · exact fun hcalled hsame => not_not.mp fun hne => hcalled.mpr hne hsame
          · intro htold
            refine ⟨fun hsums hsame => hsums ?_, fun hne hsums => hne (htold hsums)⟩
            rw [hsame]

/-- After a watch that finds room every task calls the handler exactly when the item has
    changed since the last task, or the watch, if and only if no change leaves both sums as
    they are. -/
theorem notifies_iff (t : Notify H) (mem : Nat → UInt8) (id : UInt8) (item : Nat) (size : UInt8)
    (handler : H) (es : List (Event H)) (hroom : (t.watch mem id item size handler).2 = true)
    (hes : ∀ c, .call c ∈ es → ¬ c.Concerns id handler) :
    Faithful id item size handler (t.watch mem id item size handler).1
        (content mem item size) es ↔ Told item size (content mem item size) es := by
  rcases watch_follows hroom with ⟨i, hi⟩
  exact follows_told_iff hi hes

end Watch

/-- The sums of bytes after others. -/
theorem foldl_chksums (bytes : List UInt8) (s : UInt8 × UInt8) :
    bytes.foldl (fun s b => (s.1 + b, s.2 ^^^ b)) s =
      (s.1 + (chksums bytes).1, s.2 ^^^ (chksums bytes).2) := by
  unfold chksums
  induction bytes generalizing s with
  | nil => simp only [List.foldl_nil, UInt8.add_zero, UInt8.xor_zero]
  | cons b bytes ih =>
      rw [List.foldl_cons, List.foldl_cons, ih, ih (0 + b, 0 ^^^ b)]
      simp only [UInt8.zero_add, UInt8.zero_xor, UInt8.add_assoc, UInt8.xor_assoc]

theorem chksums_cons (b : UInt8) (bytes : List UInt8) :
    chksums (b :: bytes) = (b + (chksums bytes).1, b ^^^ (chksums bytes).2) := by
  conv_lhs => unfold chksums
  rw [List.foldl_cons, foldl_chksums, UInt8.zero_add, UInt8.zero_xor]

theorem chksums_append (bytes bytes' : List UInt8) :
    chksums (bytes ++ bytes') =
      ((chksums bytes).1 + (chksums bytes').1, (chksums bytes).2 ^^^ (chksums bytes').2) := by
  conv_lhs => unfold chksums
  rw [List.foldl_append, foldl_chksums bytes']
  rfl

/-- Any change of a single byte changes a sum. -/
theorem chksums_byte (before : List UInt8) {after : List UInt8} {b c : UInt8}
    (h : chksums (before ++ b :: after) = chksums (before ++ c :: after)) : b = c := by
  have hsum := congrArg Prod.fst h
  simp only [chksums_append, chksums_cons] at hsum
  exact (UInt8.add_left_inj _).mp ((UInt8.add_right_inj _).mp hsum)

/-- Of an item of one byte no change is missed. -/
theorem told_of_byte {H : Type} {item : Nat} {size : UInt8} (hsize : size.toNat = 1)
    (mem : Nat → UInt8) (es : List (Event H)) : Told item size (content mem item size) es := by
  have hbyte : ∀ mem : Nat → UInt8, content mem item size = [mem item] := by
    intro mem
    unfold content
    rw [hsize]
    rfl
  induction es generalizing mem with
  | nil => exact trivial
  | cons e es ih =>
      cases e with
      | call c => exact ih mem
      | task mem' =>
          refine ⟨fun hsums => ?_, ih mem'⟩
          rw [hbyte, hbyte] at hsums ⊢
          rw [chksums_byte [] hsums]

/-- `timer.status`, by its two counters: what is ahead of them, `photosTaken_u16` and
    `photosRemaining_u16` as they are set after so many of so many photos, and what is
    behind them. -/
def statusBytes (before after : List UInt8) (total photos : UInt16) : List UInt8 :=
  before ++ photos.toUInt8 :: (photos >>> 8).toUInt8 :: (total - photos).toUInt8 ::
    ((total - photos) >>> 8).toUInt8 :: after

/-- One byte is watched, and then changed. -/
theorem notifies_iff_byte :
    Faithful 3 0 1 () ((zero ()).watch (fun _ => 0) 3 0 1 ()).1 (content (fun _ => 0) 0 1)
      [.task fun _ => 1] := by
  refine (notifies_iff (zero ()) (fun _ => 0) 3 0 1 () [.task fun _ => 1] (by decide +kernel)
    ?_).mpr (told_of_byte rfl _ _)
  intro c hc
  rcases List.mem_singleton.mp hc with ⟨⟩

/-- Counting up from an even number changes its last bit. -/
theorem u16_succ {n : UInt16} (h : n.toNat % 2 = 0) : n + 1 = n ^^^ 1 := by
  apply UInt16.toNat_inj.mp
  have hlt := n.toNat_lt
  have hxor := Nat.xor_one_of_even (Nat.even_iff.mpr h)
  rw [UInt16.toNat_xor, UInt16.toNat_add, UInt16.toNat_one, hxor]
  omega

/-- So does counting down from an odd one. -/
theorem u16_pred {n : UInt16} (h : n.toNat % 2 = 1) : n - 1 = n ^^^ 1 := by
  apply UInt16.toNat_inj.mp
  have hlt := n.toNat_lt
  have hxor := Nat.xor_one_of_odd (Nat.odd_iff.mpr h)
  rw [UInt16.toNat_xor, UInt16.toNat_sub, UInt16.toNat_one, hxor]
  omega

/-- The last bit of a word is in its low byte, where it makes one more or one less. -/
theorem low_flip (n : UInt16) :
    (n ^^^ 1).toUInt8 = n.toUInt8 ^^^ 1 ∧ (n ^^^ 1) >>> 8 = n >>> 8 ∧
      (n ^^^ 1).toUInt8 = if n.toNat % 2 = 0 then n.toUInt8 + 1 else n.toUInt8 - 1 := by
  refine ⟨UInt16.toUInt8_xor n 1, ?_, ?_⟩
  · rw [UInt16.shiftRight_xor]
    exact UInt16.xor_zero
  · by_cases h : n.toNat % 2 = 0
    · rw [if_pos h, ← u16_succ h, UInt16.toUInt8_add]
      rfl
    · rw [if_neg h, ← u16_pred (by omega), UInt16.toUInt8_sub]
      rfl

/-- Of an odd number of photos, no photo after an even number changes a sum of the two
    counters, though it changes their bytes. -/
theorem counters_missed (before after : List UInt8) {total photos : UInt16}
    (htotal : total.toNat % 2 = 1) (hphotos : photos.toNat % 2 = 0) :
    chksums (statusBytes before after total (photos + 1)) =
        chksums (statusBytes before after total photos) ∧
      statusBytes before after total (photos + 1) ≠ statusBytes before after total photos := by
  have hlow : ∀ n : UInt16, n.toUInt8 ^^^ 1 ≠ n.toUInt8 := by
    intro n h
    have hone : n.toUInt8 ^^^ 1 ^^^ n.toUInt8 = 0 := by rw [h, UInt8.xor_self]
    rw [UInt8.xor_comm, ← UInt8.xor_assoc, UInt8.xor_self, UInt8.zero_xor] at hone
    exact absurd hone (by decide)
  have hremaining : (total - photos).toNat % 2 = 1 := by
    have ht := total.toNat_lt
    have hp := photos.toNat_lt
    rw [UInt16.toNat_sub]
    omega
  -- One counter goes up in its last bit, the other goes down in it.
  have hdown : total - (photos + 1) = (total - photos) ^^^ 1 := by
    rw [← u16_pred hremaining]
    grind
  rcases low_flip photos with ⟨hpx, hph, hpa⟩
  rcases low_flip (total - photos) with ⟨hrx, hrh, hra⟩
  rw [if_pos hphotos] at hpa
  rw [if_neg (by omega)] at hra
  unfold statusBytes
  rw [hdown, u16_succ hphotos, hph, hrh]
  constructor
  · simp only [chksums_append, chksums_cons, Prod.mk.injEq]
    constructor
    · rw [hpa, hra]
      grind
    · rw [hpx, hrx]
      generalize photos.toUInt8 = b
      generalize (total - photos).toUInt8 = c
      generalize (photos >>> 8).toUInt8 = h
      generalize ((total - photos) >>> 8).toUInt8 ^^^ (chksums after).2 = r
      have hself : (1 : UInt8) ^^^ 1 = 0 := rfl
      calc (chksums before).2 ^^^ (b ^^^ 1 ^^^ (h ^^^ (c ^^^ 1 ^^^ r)))
          = (1 ^^^ 1) ^^^ ((chksums before).2 ^^^ (b ^^^ (h ^^^ (c ^^^ r)))) := by ac_rfl
        _ = (chksums before).2 ^^^ (b ^^^ (h ^^^ (c ^^^ r))) := by rw [hself, UInt8.zero_xor]
  · intro hsame
    have hhead := (List.cons.inj (List.append_cancel_left hsame)).1
    exact hlow photos (hpx.symm.trans hhead)

/-- The memory with `timer.status` at its start, after so many of 501 photos. -/
def statusMemory (photos : UInt16) (a : Nat) : UInt8 :=
  (statusBytes (List.replicate 13 0) (List.replicate 25 0) 501 photos).getD a 0

/-- The status is watched and no photo has been taken. The first of 501 photos is taken,
    and the task calls no handler. -/
theorem status_missed : ∃ (t : Notify Unit) (mem : Nat → UInt8) (id : UInt8) (item : Nat)
    (size : UInt8) (handler : Unit) (es : List (Event Unit)),
    (t.watch mem id item size handler).2 = true ∧
      (∀ c, .call c ∈ es → ¬ c.Concerns id handler) ∧
      ¬ Faithful id item size handler (t.watch mem id item size handler).1
        (content mem item size) es := by
  refine ⟨zero (), statusMemory 0, 1, 0, 42, (), [.task (statusMemory 1)], by decide +kernel, ?_,
    ?_⟩
  · intro c hc
    rcases List.mem_singleton.mp hc with ⟨⟩
  · rintro ⟨hcalled, -⟩
    exact absurd (hcalled.mpr (by decide +kernel)) (by decide +kernel)

end Notify

end TimelapsePlus
