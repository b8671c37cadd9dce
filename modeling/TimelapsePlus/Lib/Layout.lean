import TimelapsePlus.Lib.Word
import Mathlib.Data.List.Basic

/-!
# Bytes in a Memory

A memory holds a list of bytes from an index on. What is laid out one after the
other is read one after the other: the parts of a record by where they begin, and
the values of a list by where it begins and how long each of them is.

## Main definitions

* `encode`: The bytes of a number.
* `Holds`: A memory holds some bytes from an index on.

## Theorems

* `holds_cons`, `holds_append`: The parts of what is held.
* `Holds.le16`, `Holds.le32`: Reading a number that is held.
* `Holds.map_range`: Reading the values of a list.
* `holds_of_window`: A window on a stream holds what the stream has there.
-/

namespace TimelapsePlus

namespace Word

/-- The bytes of a number, the lowest first. -/
def encode : Nat → Nat → List UInt8
  | 0, _ => []
  | n + 1, v => UInt8.ofNat v :: encode n (v / 256)

/-- A memory holds some bytes from an index on. -/
def Holds (mem : Nat → UInt8) (i : Nat) (l : List UInt8) : Prop :=
  ∀ j, j < l.length → mem (i + j) = bytes l j

theorem length_encode (n v : Nat) : (encode n v).length = n := by
  induction n generalizing v with
  | zero => rfl
  | succ n ih => rw [encode, List.length_cons, ih]

section Holds

variable {mem : Nat → UInt8} {i : Nat}

theorem holds_nil : Holds mem i [] := fun _ hj => absurd hj (Nat.not_lt_zero _)

theorem holds_cons {x : UInt8} {l : List UInt8} :
    Holds mem i (x :: l) ↔ mem i = x ∧ Holds mem (i + 1) l := by
  constructor
  · intro h
    refine ⟨h 0 (Nat.succ_pos _), fun j hj => ?_⟩
    have hnext := h (j + 1) (Nat.succ_lt_succ hj)
    rwa [Nat.add_right_comm i 1 j]
  · rintro ⟨hfirst, hrest⟩ j hj
    cases j with
    | zero => exact hfirst
    | succ j =>
        have hnext := hrest j (Nat.lt_of_succ_lt_succ hj)
        rwa [Nat.add_right_comm i 1 j] at hnext

theorem holds_append {l l' : List UInt8} :
    Holds mem i (l ++ l') ↔ Holds mem i l ∧ Holds mem (i + l.length) l' := by
  induction l generalizing i with
  | nil => exact ⟨fun h => ⟨holds_nil, h⟩, fun h => h.2⟩
  | cons x l ih =>
      rw [List.cons_append, holds_cons, holds_cons, ih, List.length_cons, Nat.add_right_comm i 1,
        ← Nat.add_assoc, and_assoc]

/-- A number of two bytes that is held is read. -/
theorem Holds.le16 {v : Nat} (h : Holds mem i (encode 2 v)) (hv : v < 65536) :
    le16 mem i = v := by
  simp only [encode, holds_cons] at h
  have hbyte : ∀ m : Nat, (UInt8.ofNat m).toNat = m % 256 := fun m => UInt8.toNat_ofNat'
  rw [Word.le16, h.1, h.2.1, hbyte, hbyte]
  omega

/-- And so is one of four. -/
theorem Holds.le32 {v : Nat} (h : Holds mem i (encode 4 v)) (hv : v < 4294967296) :
    le32 mem i = v := by
  simp only [encode, holds_cons] at h
  have hbyte : ∀ m : Nat, (UInt8.ofNat m).toNat = m % 256 := fun m => UInt8.toNat_ofNat'
  rw [Word.le32, h.1, h.2.1, h.2.2.1, h.2.2.2.1, hbyte, hbyte, hbyte, hbyte]
  omega

/-- The values of a list, each as long as the others, are read one after the other. -/
theorem Holds.map_range {enc : Nat → List UInt8} {read : Nat → Nat} {size : Nat}
    {values : List Nat} (h : Holds mem i (values.flatMap enc))
    (hlength : ∀ v, (enc v).length = size)
    (hread : ∀ k, ∀ v ∈ values, Holds mem k (enc v) → read k = v) :
    ((List.range values.length).map fun k => read (i + size * k)) = values := by
  induction values generalizing i with
  | nil => rfl
  | cons v values ih =>
      rw [List.flatMap_cons, holds_append, hlength] at h
      have hfirst := hread i v List.mem_cons_self h.1
      have hrest := ih h.2 fun k w hw => hread k w (List.mem_cons_of_mem v hw)
      rw [List.length_cons, List.range_succ_eq_map, List.map_cons, List.map_map, Nat.mul_zero,
        Nat.add_zero, hfirst]
      refine congrArg (v :: ·) (Eq.trans ?_ hrest)
      refine List.map_congr_left fun k _ => ?_
      simp only [Function.comp_apply, Nat.mul_succ]
      congr 1
      omega

/-- A window on a stream holds what the stream has there. -/
theorem holds_of_window {s l rest : List UInt8} {base n : Nat}
    (hshows : ∀ j, j < n → mem j = bytes s (base + j)) (hdrop : s.drop (base + i) = l ++ rest)
    (hfit : i + l.length ≤ n) : Holds mem i l := by
  intro j hj
  rw [hshows _ (by omega)]
  unfold bytes
  rw [List.getD_eq_getElem?_getD, List.getD_eq_getElem?_getD, ← Nat.add_assoc, ← List.getElem?_drop,
    hdrop, List.getElem?_append_left hj]

end Holds

end Word

end TimelapsePlus
