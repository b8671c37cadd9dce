import Mathlib.Logic.Function.Basic
import Mathlib.Data.List.Range
import TimelapsePlus.Ptp.Lists
import TimelapsePlus.Lib.Word

/-!
# Tables of Available Values

The values of a setting the camera has told it can take, in an array of fixed
size with a count beside it. Nothing in the code ties the count or the index
of a store to the size of the array, so a table is a memory from the array's
first element on, and a store outside the array is made, and noted. What it
damages is not modelled.

The lookups walk the listed values by position: the next value of a setting is
the one listed after the first place where its present value is listed. They
clamp to the limits the user has set, and a value that is not listed leads to
an end of the list.

## Main definitions

* `Table`: An array of so many values, its count, and whether a store ever
  went outside.
* `Table.write`: A store to the array.
* `Table.listed`: The values listed.
* `isoUp`, `isoDown`, `apertureUp`, `apertureDown`: The neighbours of a value.

## Theorems

* `write_escaped`: A store goes outside exactly when its index does.
* `length_listed`: As many values are listed as the count says.
-/

namespace TimelapsePlus

namespace Ptp

/-- `ISO_COUNT_MAX`. -/
def isoCountMax : Nat := 38

/-- `SHUTTER_COUNT_MAX`. -/
def shutterCountMax : Nat := 64

/-- `APERTURE_COUNT_MAX`. -/
def apertureCountMax : Nat := 30

/-- An array of `cap` values and its count. `before` is the byte in front of the
    array, which an empty table's last index names. -/
structure Table (cap : Nat) where
  item : Nat → Nat
  before : Nat
  count : Nat
  escaped : Bool

namespace Table

variable {cap : Nat}

/-- Store a value at an index of the array. -/
def write (t : Table cap) (k v : Nat) : Table cap :=
  { t with item := Function.update t.item k v, escaped := t.escaped || decide (cap ≤ k) }

/-- The values listed, in order. -/
def listed (t : Table cap) : List Nat := (List.range t.count).map t.item

/-- The last element listed; for an empty table, the byte in front of it. -/
def last (t : Table cap) : Nat := if t.count = 0 then t.before else t.item (t.count - 1)

/-- The first index at which a value is listed. -/
def find (t : Table cap) (ev : Nat) : Option Nat :=
  (List.range t.count).find? (fun i => t.item i == ev)

@[simp] theorem write_item_self (t : Table cap) (k v : Nat) : (t.write k v).item k = v := by
  simp [write]

theorem write_item_of_ne (t : Table cap) {k j : Nat} (v : Nat) (h : j ≠ k) :
    (t.write k v).item j = t.item j := by
  simp [write, h]

@[simp] theorem write_count (t : Table cap) (k v : Nat) : (t.write k v).count = t.count := rfl

theorem write_escaped (t : Table cap) (k v : Nat) :
    (t.write k v).escaped = false ↔ t.escaped = false ∧ k < cap := by
  simp [write]

@[simp] theorem length_listed (t : Table cap) : t.listed.length = t.count := by
  simp [listed]

theorem find_lt (t : Table cap) {ev i : Nat} (h : t.find ev = some i) : i < t.count :=
  List.mem_range.mp (List.mem_of_find?_eq_some h)

theorem find_item (t : Table cap) {ev i : Nat} (h : t.find ev = some i) : t.item i = ev := by
  have := List.find?_some h
  rwa [beq_iff_eq] at this

end Table

/-- The value listed after one, no lower than the limit. -/
def isoUp (t : Table isoCountMax) (isoMax ev : Nat) : Nat :=
  if t.count = 0 then ev
  else
    let tmp := match t.find ev with
      | some i => if i < t.count - 1 then t.item (i + 1) else t.last
      | none => t.last
    if tmp < isoMax then isoMax else tmp

/-- The value listed before one. -/
def isoDown (t : Table isoCountMax) (ev : Nat) : Nat :=
  if t.count = 0 then ev
  else match t.find ev with
    | some i => if 0 < i then t.item (i - 1) else t.item 0
    | none => t.item 0

/-- The value listed after one, no higher than the limit. -/
def apertureUp (t : Table apertureCountMax) (apertureMax ev : Nat) : Nat :=
  let tmp := match t.find ev with
    | some i => if i < t.count - 1 then t.item (i + 1) else t.last
    | none => t.last
  if apertureMax < tmp then apertureMax else tmp

/-- The value listed before one, no lower than the limit. -/
def apertureDown (t : Table apertureCountMax) (apertureMin ev : Nat) : Nat :=
  let tmp := match t.find ev with
    | some i => if 0 < i then t.item (i - 1) else t.item 0
    | none => t.item 0
  if tmp < apertureMin then apertureMin else tmp

end Ptp

end TimelapsePlus
