import Mathlib.Data.List.Perm.Subperm
import TimelapsePlus.Bluetooth.Values

/-!
# The Watches of a Unit

The table of watched values has fifteen entries, and `Notify::watch` reports an error
when it finds none that is free. In a unit it always finds one: the firmware itself
watches four values, the other unit can have five watched, and there is never more than
one entry for a value. The packets that stop and start a run share an entry.

When the connection goes, the entries for the other unit are made inactive. They are
all of those, and none comes back before there is a new connection, since only a packet
sets one up.

## Main definitions

* `Watched`: An entry that the firmware makes.
* `Tabled`: A table of such entries, one for each.
* `Deaf`: No value is watched for the other unit.

## Theorems

* `Tabled.room`: There is room for another entry.
* `tabled_call`, `tabled_task`: What is done to the table keeps it so.
* `deaf_unWatch`, `deaf_task`: No watch is left, and none comes back by itself.
-/

namespace TimelapsePlus

namespace Notify

section Entries

variable {H : Type} {P : WatchedItem H → Prop} {t : Notify H}

/-- All active entries are such. -/
def Entries (P : WatchedItem H → Prop) (t : Notify H) : Prop :=
  ∀ i, (t.watchedItems i).active = true → P (t.watchedItems i)

theorem Entries.unWatchWhere (h : t.Entries P) (p : WatchedItem H → Bool) :
    (t.unWatchWhere p).Entries P := by
  intro i hi
  unfold Notify.unWatchWhere at hi ⊢
  simp only at hi ⊢
  split
  · next hmatch =>
      rw [if_pos hmatch] at hi
      exact absurd hi Bool.false_ne_true
  · next hmatch =>
      rw [if_neg hmatch] at hi
      exact h i hi

theorem Entries.place (h : t.Entries P) {w : WatchedItem H} (hw : P w) :
    (t.place w).1.Entries P := by
  cases hfree : t.free with
  | none =>
      rw [place_of_full hfree]
      exact h
  | some j =>
      rw [place_of_free hfree]
      intro i hi
      by_cases hij : i = j
      · simp only [hij, Function.update_self]
        exact hw
      · simp only [Function.update_of_ne hij] at hi ⊢
        exact h i hi

/-- A task changes nothing of an entry but its sums. -/
theorem Entries.task (h : t.Entries P) (mem : Nat → UInt8)
    (hsums : ∀ w w' : WatchedItem H, w'.id = w.id → w'.handler = w.handler → w'.item = w.item →
      w'.size = w.size → P w → P w') : (t.task mem).1.Entries P := by
  intro i hi
  rcases check_keeps (t.watchedItems i) mem with ⟨hactive, hid, hhandler, hitem, hsize⟩
  exact hsums _ _ hid hhandler hitem hsize (h i (hactive.symm.trans hi))

/-- What a task calls has an active entry. -/
theorem task_called {mem : Nat → UInt8} {c : H × UInt8} (hc : c ∈ (t.task mem).2) :
    t.Active c.2 c.1 := by
  unfold Notify.task at hc
  simp only [List.mem_filterMap, List.mem_finRange, true_and, Option.ite_none_right_eq_some,
    Option.some.injEq] at hc
  rcases hc with ⟨i, hcalled, hpair⟩
  refine ⟨i, ?_, congrArg Prod.snd hpair, congrArg Prod.fst hpair⟩
  by_contra hnot
  unfold check at hcalled
  simp only [hnot, if_false, Bool.false_eq_true] at hcalled

end Entries

end Notify

namespace Bluetooth

open Notify (WatchedItem)

/-- An entry for a message of the firmware, or for a value that the other unit watches. -/
def Watched (w : WatchedItem Listener) : Prop :=
  w.handler = .messageNotify ∧ w.id ∈ [notifyCharge, notifyBt, notifyCamera, notifyNmx] ∨
    ∃ item : Item, w.handler = .remoteNotify ∧ w.id = item.id.code ∧ w.item = item.addr ∧
      w.size = item.size

/-- All entries are such, and there is one for each at most. -/
structure Tabled (t : Notify Listener) : Prop where
  single : t.Single
  entries : t.Entries Watched

/-- No value is watched for the other unit. -/
def Deaf (t : Notify Listener) : Prop := ∀ id, ¬ t.Active id .remoteNotify

/-- What the entries can be for. -/
def watchKeys : List (Listener × UInt8) :=
  [notifyCharge, notifyBt, notifyCamera, notifyNmx].map (Listener.messageNotify, ·) ++
    [Item.status, .batteryPercent, .running, .recording, .modeLiveView].map
      fun item => (Listener.remoteNotify, item.id.code)

theorem Watched.key {w : WatchedItem Listener} (h : Watched w) : (w.handler, w.id) ∈ watchKeys := by
  rcases h with ⟨hhandler, hid⟩ | ⟨item, hhandler, hid, -, -⟩
  · rw [hhandler]
    exact List.mem_append_left _ (List.mem_map_of_mem hid)
  · rw [hhandler, hid]
    refine List.mem_append_right _ (List.mem_map_of_mem (f := fun item : Item =>
      (Listener.remoteNotify, item.id.code)) ?_)
    cases item <;> decide

/-- Nine entries are the most there can be, so one of the fifteen is free. -/
theorem Tabled.room {t : Notify Listener} (h : Tabled t) :
    ∃ i, (t.watchedItems i).active = false := by
  by_contra hfull
  have hactive : ∀ i, (t.watchedItems i).active = true := fun i => by
    by_contra hnot
    exact hfull ⟨i, Bool.eq_false_iff.mpr hnot⟩
  let key := fun i => ((t.watchedItems i).handler, (t.watchedItems i).id)
  -- No two entries are for the same.
  have hnodup : ((List.finRange Notify.maxItemsWatched).map key).Nodup := by
    refine (List.nodup_finRange _).map_on fun i _ j _ hij => ?_
    have hpair := Prod.mk.inj hij
    exact h.single _ _ i j ⟨hactive i, rfl, rfl⟩ ⟨hactive j, hpair.2.symm, hpair.1.symm⟩
  have hsub : (List.finRange Notify.maxItemsWatched).map key ⊆ watchKeys := by
    intro c hc
    rcases List.mem_map.mp hc with ⟨i, -, rfl⟩
    exact (h.entries i (hactive i)).key
  have hle := (List.subperm_of_subset hnodup hsub).length_le
  rw [List.length_map, List.length_finRange] at hle
  exact absurd hle (by decide)

/-- So a watch never fails. -/
theorem Tabled.watches {t : Notify Listener} (h : Tabled t) (mem : Nat → UInt8) (id : UInt8)
    (item : Nat) (size : UInt8) (handler : Listener) :
    (t.watch mem id item size handler).2 = true := by
  have hcall := Notify.call_single h.single (.unWatchPair id handler)
  have hentries := h.entries.unWatchWhere fun w => w.id == id && decide (w.handler = handler)
  exact Notify.place_room.mpr (Tabled.room ⟨hcall, hentries⟩)

/-- The watches of the firmware, and what the other unit asks for, keep the table so. -/
theorem Tabled.watch {t : Notify Listener} (h : Tabled t) {mem : Nat → UInt8} {id : UInt8}
    {item : Nat} {size : UInt8} {handler : Listener}
    (hw : ∀ sum xsum, Watched ⟨item, sum, xsum, handler, size, true, id⟩) :
    Tabled (t.watch mem id item size handler).1 :=
  ⟨Notify.call_single h.single (.watch mem id item size handler),
    (h.entries.unWatchWhere _).place (hw _ _)⟩

theorem tabled_call {t : Notify Listener} (h : Tabled t) (p : Peer) {c : Remote.Call}
    (hc : ∀ id item, c = .watch id item → id = item.id) : Tabled (p.tabled t c) := by
  cases c with
  | watch id item =>
      refine h.watch fun sum xsum => Or.inr ⟨item, rfl, ?_, rfl, rfl⟩
      rw [hc id item rfl]
  | unWatch id =>
      exact ⟨Notify.call_single h.single (.unWatchPair id.code .remoteNotify),
        h.entries.unWatchWhere fun w =>
          w.id == id.code && decide (w.handler = .remoteNotify)⟩
  | unWatchAll =>
      exact ⟨Notify.call_single h.single (.unWatchHandler .remoteNotify),
        h.entries.unWatchWhere fun w => decide (w.handler = .remoteNotify)⟩
  | _ => exact h

theorem tabled_task {t : Notify Listener} (h : Tabled t) (mem : Nat → UInt8) :
    Tabled (t.task mem).1 := by
  refine ⟨fun id handler i j hi hj => ?_, h.entries.task mem ?_⟩
  · exact h.single id handler i j (Notify.for_task.mp hi) (Notify.for_task.mp hj)
  · intro w w' hid hhandler hitem hsize hw
    unfold Watched
    rw [hid, hhandler, hitem, hsize]
    exact hw

/-- After the firmware's own watches nothing is watched for the other unit. -/
theorem boot_tabled (remote : Remote) (vars : Nat → UInt8) :
    Tabled (Peer.boot remote vars).table ∧ Deaf (Peer.boot remote vars).table := by
  let p : Peer :=
    { bt := Radio.fresh.bt, state := .idle, event := .null, remote := remote
      table := Notify.zero .null, vars := vars, place := .menu }
  have hzero : Tabled p.table ∧ Deaf p.table := by
    refine ⟨⟨fun id handler i j hi => ?_, fun i hi => ?_⟩, fun id ⟨i, hi⟩ => ?_⟩
    · exact absurd hi.1 Bool.false_ne_true
    · exact absurd hi Bool.false_ne_true
    · exact absurd hi.1 Bool.false_ne_true
  have hwatch : ∀ (t : Notify Listener) (id : UInt8) (item : Nat),
      id ∈ [notifyCharge, notifyBt, notifyCamera, notifyNmx] → Tabled t ∧ Deaf t →
      Tabled (t.watch p.memory id item 1 .messageNotify).1 ∧
        Deaf (t.watch p.memory id item 1 .messageNotify).1 := by
    intro t id item hid h
    refine ⟨h.1.watch fun sum xsum => Or.inl ⟨rfl, hid⟩, fun id' hactive => h.2 id' ?_⟩
    have hother : ¬ (Notify.Call.watch p.memory id item 1 Listener.messageNotify).Concerns id'
        .remoteNotify := fun hc => Listener.noConfusion hc.2
    exact (Notify.call_keeps t _ hother).mp hactive
  exact hwatch _ _ _ (by decide) (hwatch _ _ _ (by decide) (hwatch _ _ _ (by decide)
    (hwatch _ _ _ (by decide) hzero)))

/-- When the connection goes, all the watches of the other unit go. -/
theorem deaf_unWatch (t : Notify Listener) : Deaf (t.unWatchHandler .remoteNotify) := by
  intro id hactive
  have hall : (Notify.Call.unWatchHandler Listener.remoteNotify).Concerns id .remoteNotify := rfl
  exact (Notify.call_sets t _ hall).mp hactive

/-- A task brings none back. -/
theorem deaf_task {t : Notify Listener} (h : Deaf t) (mem : Nat → UInt8) :
    Deaf (t.task mem).1 := fun id ⟨i, hi⟩ => h id ⟨i, Notify.for_task.mp hi⟩

end Bluetooth

end TimelapsePlus
