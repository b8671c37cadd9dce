import TimelapsePlus.Lib.Layout
import TimelapsePlus.Lib.Query
import TimelapsePlus.Ptp.Sony
import Mathlib.Tactic.IntervalCases

/-!
# Sony Property Streams

What the reply to `SONY_OC_GET_CONFIG` is: eight bytes, and a sequence of
properties. A property has a data type of one of six, which says how long its
values are, a default and a current value, and either a range, of three values,
or a list of at most 64.

The parser is compared with this twice: what it reads of a property that lies in
its buffer, and where in the buffer it looks. It looks at nothing behind the
property, whatever is there.

## Main definitions

* `SonyRecord`, `SonyRecord.bytes`: A property, and the bytes it is sent as.
* `SonyRecord.property`: What is to be read of it.
* `SonyStream`, `SonyStream.bytes`: A reply.
* `readProperty`: The parser with the places it looks at.

## Theorems

* `sonyProperty_eq`: A property that lies in the buffer is read.
* `run_readProperty`: The parser is `sonyProperty`.
* `readProperty_touched`: It looks at no more than the property.
-/

namespace TimelapsePlus

namespace Ptp

open Word

/-- The bytes of a value of a data type. -/
def sonySize (dataType : Nat) : Nat := 2 ^ ((dataType - 1) / 2)

/-- A property as the camera sends it. -/
structure SonyRecord where
  code : Nat
  dataType : Nat
  unknown : Nat
  initial : Nat
  current : Nat
  ranged : Bool
  items : List Nat
  code_lt : code < 65536
  typed : 1 ≤ dataType ∧ dataType ≤ 6
  current_lt : current < 256 ^ sonySize dataType
  items_lt : ∀ v ∈ items, v < 256 ^ sonySize dataType
  items_length : items.length ≤ 64 ∧ (ranged = true → items.length = 3)

namespace SonyRecord

def size (r : SonyRecord) : Nat := sonySize r.dataType

/-- A range is of three values, and a list says how many it has. -/
def form (r : SonyRecord) : List UInt8 :=
  if r.ranged then [1] else 2 :: encode 2 r.items.length

def bytes (r : SonyRecord) : List UInt8 :=
  encode 2 r.code ++ (encode 2 r.dataType ++ (encode 2 r.unknown ++ (encode r.size r.initial ++
    (encode r.size r.current ++ (r.form ++ r.items.flatMap (encode r.size))))))

/-- What is to be read of a property. -/
def property (r : SonyRecord) : SonyProperty := ⟨r.code, r.current, r.items⟩

end SonyRecord

/-- A reply: a header that is not looked at, and the properties. -/
structure SonyStream where
  header : List UInt8
  records : List SonyRecord
  header_length : header.length = 8

def SonyStream.bytes (s : SonyStream) : List UInt8 := s.header ++ s.records.flatMap SonyRecord.bytes

section Read

variable {mem : Nat → UInt8} {i : Nat}

theorem sonyDataSize_eq {dataType : Nat} (h : 1 ≤ dataType ∧ dataType ≤ 6) :
    sonyDataSize dataType = some (sonySize dataType) := by
  obtain ⟨hlo, hhi⟩ := h
  interval_cases dataType <;> rfl

theorem sonySize_cases {dataType : Nat} (h : 1 ≤ dataType ∧ dataType ≤ 6) :
    sonySize dataType = 1 ∨ sonySize dataType = 2 ∨ sonySize dataType = 4 := by
  obtain ⟨hlo, hhi⟩ := h
  interval_cases dataType <;> decide

/-- A value that lies in the buffer is read. -/
theorem sonyValue_eq {size v : Nat} (hsize : size = 1 ∨ size = 2 ∨ size = 4) (hv : v < 256 ^ size)
    (h : Holds mem i (encode size v)) : sonyValue mem size i = v := by
  rcases hsize with rfl | rfl | rfl
  · have hbyte := (holds_cons.mp h).1
    rw [sonyValue, if_pos rfl, hbyte, UInt8.toNat_ofNat']
    exact Nat.mod_eq_of_lt hv
  · rw [sonyValue, if_neg (by decide), if_pos rfl]
    exact h.le16 hv
  · rw [sonyValue, if_neg (by decide), if_neg (by decide)]
    exact h.le32 hv

theorem sonyCount_eq (r : SonyRecord) (h : Holds mem i r.form) :
    sonyCount mem i = .ok (i + r.form.length, r.items.length) := by
  have hlength := r.items_length
  unfold SonyRecord.form at h ⊢
  by_cases hranged : r.ranged = true
  · rw [if_pos hranged] at h ⊢
    have hbyte := (holds_cons.mp h).1
    simp only [sonyCount, hbyte, hlength.2 hranged, List.length_singleton]
    rfl
  · rw [if_neg hranged] at h ⊢
    rw [holds_cons] at h
    have hcount : le16 mem (i + 1) = r.items.length := h.2.le16 (by omega)
    have htwo : (2 : UInt8).toNat = 2 := rfl
    simp only [sonyCount, h.1, htwo, hcount, List.length_cons, length_encode]
    rw [if_neg (by decide), if_pos trivial, if_neg (by omega)]

/-- Where the parts of a property that lies in the buffer are. -/
theorem holds_record {r : SonyRecord} (h : Holds mem i r.bytes) :
    Holds mem i (encode 2 r.code) ∧ Holds mem (i + 2) (encode 2 r.dataType) ∧
      Holds mem (i + 6 + r.size) (encode r.size r.current) ∧
      Holds mem (i + 6 + 2 * r.size) r.form ∧
      Holds mem (i + 6 + 2 * r.size + r.form.length) (r.items.flatMap (encode r.size)) := by
  unfold SonyRecord.bytes at h
  simp only [holds_append, length_encode] at h
  rcases h with ⟨hcode, htype, -, -, hcurrent, hform, hitems⟩
  have hstart : i + 6 + 2 * r.size = i + 2 + 2 + 2 + r.size + r.size := by omega
  rw [hstart]
  exact ⟨hcode, htype, hcurrent, hform, hitems⟩

theorem length_flatMap_encode (size : Nat) (values : List Nat) :
    (values.flatMap (encode size)).length = size * values.length := by
  induction values with
  | nil => rfl
  | cons v values ih =>
      rw [List.flatMap_cons, List.length_append, length_encode, ih, List.length_cons, Nat.mul_succ,
        Nat.add_comm]

theorem length_record (r : SonyRecord) :
    r.bytes.length = 6 + 2 * r.size + r.form.length + r.size * r.items.length := by
  unfold SonyRecord.bytes
  simp only [List.length_append, length_encode, length_flatMap_encode]
  omega

/-- A property that lies in the buffer is read, and the next one is behind it. -/
theorem sonyProperty_eq {r : SonyRecord} (h : Holds mem i r.bytes) :
    sonyProperty mem i = .ok (r.property, i + r.bytes.length) := by
  obtain ⟨hcode, htype, hcurrent, hform, hitems⟩ := holds_record h
  have hcases : r.size = 1 ∨ r.size = 2 ∨ r.size = 4 := sonySize_cases r.typed
  have hsize : sonyDataSize (le16 mem (i + 2)) = some r.size := by
    rw [htype.le16 (by have := r.typed; omega)]
    exact sonyDataSize_eq r.typed
  have hvalues : ((List.range r.items.length).map fun k =>
      sonyValue mem r.size (i + 6 + 2 * r.size + r.form.length + r.size * k)) = r.items :=
    hitems.map_range (length_encode r.size)
      fun k v hv hheld => sonyValue_eq hcases (r.items_lt v hv) hheld
  have hnext : i + 6 + 2 * r.size + r.form.length + r.size * r.items.length =
      i + r.bytes.length := by
    rw [length_record]
    omega
  simp only [sonyProperty, hsize, sonyCount_eq r hform, hcode.le16 r.code_lt,
    sonyValue_eq hcases r.current_lt hcurrent, hvalues, hnext]
  rfl

end Read

section Query

open Query

def look16 (i : Nat) : Query Nat UInt8 Nat := do
  let lo ← look i
  let hi ← look (i + 1)
  return lo.toNat + 256 * hi.toNat

def look32 (i : Nat) : Query Nat UInt8 Nat := do
  let b0 ← look i
  let b1 ← look (i + 1)
  let b2 ← look (i + 2)
  let b3 ← look (i + 3)
  return b0.toNat + 256 * b1.toNat + 65536 * b2.toNat + 16777216 * b3.toNat

/-- `sonyValue`, and where it looks. -/
def readValue (size i : Nat) : Query Nat UInt8 Nat :=
  if size = 1 then do
    let b ← look i
    return b.toNat
  else if size = 2 then look16 i else look32 i

/-- `sonyCount`, and where it looks. -/
def readCount (i : Nat) : Query Nat UInt8 (Except Nat (Nat × Nat)) := do
  let listType ← look i
  if listType.toNat = 1 then return .ok (i + 1, 3)
  else if listType.toNat = 2 then do
    let count ← look16 (i + 1)
    return if 64 < count then .error 0 else .ok (i + 3, count)
  else return .error 3

/-- `sonyProperty`, and where it looks. -/
def readProperty (i : Nat) : Query Nat UInt8 (Except Nat (SonyProperty × Nat)) := do
  let code ← look16 i
  let dataType ← look16 (i + 2)
  match sonyDataSize dataType with
  | none => return .error 2
  | some size => do
    let current ← readValue size (i + 6 + size)
    let list ← readCount (i + 6 + 2 * size)
    match list with
    | .error err => return .error err
    | .ok (start, count) => do
      let items ← collect (fun k => readValue size (start + size * k)) (List.range count)
      return .ok (⟨code, current, items⟩, start + size * count)

variable {mem : Nat → UInt8} {i : Nat}

@[simp] theorem run_look16 : (look16 i).run mem = le16 mem i := rfl

@[simp] theorem run_look32 : (look32 i).run mem = le32 mem i := rfl

@[simp] theorem run_readValue (size : Nat) : (readValue size i).run mem = sonyValue mem size i := by
  unfold readValue sonyValue
  split
  · rfl
  · split <;> rfl

@[simp] theorem run_readCount : (readCount i).run mem = sonyCount mem i := by
  unfold readCount sonyCount
  by_cases hrange : (mem i).toNat = 1
  · simp only [run_bind, run_look, hrange, if_true, run_pure]
  · by_cases hlist : (mem i).toNat = 2
    · simp only [run_bind, run_look, hlist, Nat.reduceEqDiff, if_false, if_true, run_look16,
        run_pure]
      rfl
    · simp only [run_bind, run_look, hrange, hlist, if_false, run_pure]

/-- The parser is the one that is modelled. -/
theorem run_readProperty : (readProperty i).run mem = sonyProperty mem i := by
  unfold readProperty sonyProperty
  simp only [run_bind, run_look16]
  cases sonyDataSize (le16 mem (i + 2)) with
  | none => rfl
  | some size =>
      simp only [run_bind, run_readValue, run_readCount]
      cases sonyCount mem (i + 6 + 2 * size) with
      | error err => rfl
      | ok list => simp only [run_bind, run_collect, run_readValue, run_pure]

/-- A value is looked at where it is. -/
theorem readValue_touched {size j : Nat} (hsize : size = 1 ∨ size = 2 ∨ size = 4)
    (hj : j ∈ (readValue size i).touched mem) : j < i + size := by
  rcases hsize with rfl | rfl | rfl
  · have hone : (readValue 1 i).touched mem = [i] := rfl
    rw [hone, List.mem_singleton] at hj
    omega
  · have htwo : (readValue 2 i).touched mem = [i, i + 1] := rfl
    rw [htwo] at hj
    simp only [List.mem_cons, List.not_mem_nil, or_false] at hj
    omega
  · have hfour : (readValue 4 i).touched mem = [i, i + 1, i + 2, i + 3] := rfl
    rw [hfour] at hj
    simp only [List.mem_cons, List.not_mem_nil, or_false] at hj
    omega

theorem readCount_touched {r : SonyRecord} (h : Holds mem i r.form) {j : Nat}
    (hj : j ∈ (readCount i).touched mem) : j < i + r.form.length := by
  unfold SonyRecord.form at h ⊢
  by_cases hranged : r.ranged = true
  · rw [if_pos hranged] at h ⊢
    have hbyte : (mem i).toNat = 1 := congrArg UInt8.toNat (holds_cons.mp h).1
    simp only [readCount, touched_bind, touched_look, run_look, hbyte, if_true, touched_pure,
      List.append_nil, List.mem_singleton] at hj
    rw [List.length_singleton]
    omega
  · rw [if_neg hranged] at h ⊢
    have hbyte : (mem i).toNat = 2 := congrArg UInt8.toNat (holds_cons.mp h).1
    have hword : (look16 (i + 1)).touched mem = [i + 1, i + 2] := rfl
    simp only [readCount, touched_bind, touched_look, run_look, hbyte, Nat.reduceEqDiff, if_false,
      if_true, hword, touched_pure, List.append_nil, List.mem_append, List.mem_cons,
      List.not_mem_nil, or_false] at hj
    rw [List.length_cons, length_encode]
    omega

/-- The parser looks at no more than the property, wherever its values are. -/
theorem readProperty_touched {r : SonyRecord} (h : Holds mem i r.bytes) {j : Nat}
    (hj : j ∈ (readProperty i).touched mem) : j < i + r.bytes.length := by
  obtain ⟨-, htype, -, hform, -⟩ := holds_record h
  have hcases : r.size = 1 ∨ r.size = 2 ∨ r.size = 4 := sonySize_cases r.typed
  have hsize : sonyDataSize (le16 mem (i + 2)) = some r.size := by
    rw [htype.le16 (by have := r.typed; omega)]
    exact sonyDataSize_eq r.typed
  have hcount := sonyCount_eq r hform
  have hlength := length_record r
  have hword : ∀ k, (look16 k).touched mem = [k, k + 1] := fun _ => rfl
  unfold readProperty at hj
  simp only [touched_bind, run_look16, hsize, run_readCount, hcount, touched_collect, touched_pure,
    hword, List.append_nil, List.mem_append, List.mem_cons, List.not_mem_nil, or_false,
    List.mem_flatMap, List.mem_range] at hj
  rcases hj with hcode | htypes | hvalue | hlist | ⟨k, hk, hitem⟩
  · omega
  · omega
  · have hlt := readValue_touched hcases hvalue
    omega
  · have hlt := readCount_touched hform hlist
    omega
  · -- The values of the list fill the rest of the property.
    have hlt := readValue_touched hcases hitem
    have hmul : r.size * (k + 1) ≤ r.size * r.items.length := Nat.mul_le_mul_left _ hk
    rw [Nat.mul_succ] at hmul
    omega

end Query

end Ptp

end TimelapsePlus
