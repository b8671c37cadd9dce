import TimelapsePlus.Ptp.Camera
import TimelapsePlus.Ptp.Driver

/-!
# Sony Properties

`PTP::sonyReadProperties`: the loop that reads the reply to
`SONY_OC_GET_CONFIG`, one property after the other. While data remain, the
loop fetches the next buffer as soon as it is past the middle of the one at
hand, so that a property read from the first half is never cut.

A property that cannot be read ends the loop, and the function, at once, and so
does a list of more than 64 values; what remains of the reply is left where it
is. The values of the ISO list are filtered, and those kept are stored by the
loop that drops unknown codes. The shutter's list is not looked at: its table is
filled with all the shutter codes there are.

## Main definitions

* `SonyProperty`: What is read of a property.
* `sonyProperty`: Reading the property at an index.
* `appendAll`: Adding values at the end of a table.
* `Camera.applySony`: A property takes effect.
* `SonyFrame`, `SonyFrame.turn`: The loop, turn by turn.

## Theorems

* `sonyProperty_next_le`: A property is at most so long.
* `appendAll_count`, `appendAll_escaped`: Adding values that fit.
-/

namespace TimelapsePlus

namespace Ptp

open Word

def sonyOcGetConfig : Nat := 0x9209
def sonyDpcIso : Nat := 0xD21E
def sonyDpcShutter : Nat := 0xD20D

/-- What is read of a property. -/
structure SonyProperty where
  code : Nat
  current : Nat
  items : List Nat
deriving Repr, DecidableEq

/-- The size of a value of a data type: `DATA8`, `DATAU8`, `DATA16` and so on. -/
def sonyDataSize (dataType : Nat) : Option Nat :=
  if dataType = 1 ∨ dataType = 2 then some 1
  else if dataType = 3 ∨ dataType = 4 then some 2
  else if dataType = 5 ∨ dataType = 6 then some 4
  else none

/-- A value of one, two or four bytes. -/
def sonyValue (buffer : Nat → UInt8) (size i : Nat) : Nat :=
  if size = 1 then (buffer i).toNat else if size = 2 then le16 buffer i else le32 buffer i

/-- Where the list of a property begins, and how many values it has. The error
    is the value the function returns. -/
def sonyCount (buffer : Nat → UInt8) (i : Nat) : Except Nat (Nat × Nat) :=
  let listType := (buffer i).toNat
  if listType = 1 then .ok (i + 1, 3)
  else if listType = 2 then
    if 64 < le16 buffer (i + 1) then .error 0 else .ok (i + 3, le16 buffer (i + 1))
  else .error 3

/-- The property at an index, and the index after it. -/
def sonyProperty (buffer : Nat → UInt8) (i : Nat) : Except Nat (SonyProperty × Nat) :=
  match sonyDataSize (le16 buffer (i + 2)) with
  | none => .error 2
  | some size =>
      -- The default value is skipped.
      match sonyCount buffer (i + 6 + 2 * size) with
      | .error err => .error err
      | .ok (start, count) => .ok
          (⟨le16 buffer i, sonyValue buffer size (i + 6 + size),
            (List.range count).map fun k => sonyValue buffer size (start + size * k)⟩,
          start + size * count)

/-- Add values at the end of a table. -/
def appendAll {cap : Nat} (t : Table cap) (values : List Nat) : Table cap :=
  values.foldl (fun t v => { t.write t.count v with count := u8 (t.count + 1) }) t

/-- The ISO values that are kept: those up to 51200, and the one for automatic
    ISO. -/
def SonyProperty.isoCodes (p : SonyProperty) : List Nat :=
  p.items.filter fun code => code ≤ 51200 ∨ code = 16777215

/-- A property takes effect. -/
def Camera.applySony (c : Camera) (p : SonyProperty) : Camera :=
  if p.code = sonyDpcIso then
    let t := fillCompact (isoEv c.protocol.propertyOffset) c.isoAvail p.isoCodes
    { c with isoAvail := t, isoPTP := p.current, supports.iso := decide (0 < t.count) }
  else if p.code = sonyDpcShutter then
    let t := appendAll { c.shutterAvail with count := 0 }
      ((ptpShutterList.drop 1).map PropertyDescription.ev)
    { c with shutterAvail := t, shutterPTP := p.current, supports.shutter := decide (0 < t.count) }
  else c

/-- The loop stands at an index of the buffer. -/
structure SonyFrame where
  i : Nat
  ret : Ret
  driver : Driver

/-- One turn of the loop: it fetches, or reads a property and applies it. -/
def SonyFrame.turn (f : SonyFrame) (c : Camera) :
    Except (Nat × Driver) (SonyFrame × Camera) :=
  let d := f.driver
  if d.bytesReceived ≤ f.i then .error (0, d)
  else if f.ret = .dataRemaining ∧ bufferSize / 2 < f.i then
    let r := d.fetchData (bufferSize - f.i)
    if r.1 = .error then .error (1, r.2) else .ok (⟨0, r.1, r.2⟩, c)
  else match sonyProperty d.buffer f.i with
    | .error err => .error (err, d)
    | .ok (p, next) => .ok ({ f with i := next }, c.applySony p)

theorem sonyDataSize_le {dataType size : Nat} (h : sonyDataSize dataType = some size) :
    size ≤ 4 := by
  unfold sonyDataSize at h
  grind

theorem sonyCount_le {buffer : Nat → UInt8} {i start count : Nat}
    (h : sonyCount buffer i = .ok (start, count)) : start ≤ i + 3 ∧ count ≤ 64 := by
  unfold sonyCount at h
  grind

/-- A property, with all its values, is at most 273 bytes long. -/
theorem sonyProperty_next_le {buffer : Nat → UInt8} {i next : Nat} {p : SonyProperty}
    (h : sonyProperty buffer i = .ok (p, next)) : next ≤ i + 273 := by
  unfold sonyProperty at h
  cases hsize : sonyDataSize (le16 buffer (i + 2)) with
  | none =>
      rw [hsize] at h
      exact absurd h (by simp only [reduceCtorEq, not_false_eq_true])
  | some size =>
      rw [hsize] at h
      simp only at h
      have hle := sonyDataSize_le hsize
      cases hcount : sonyCount buffer (i + 6 + 2 * size) with
      | error err =>
          rw [hcount] at h
          exact absurd h (by simp only [reduceCtorEq, not_false_eq_true])
      | ok r =>
          rcases r with ⟨start, count⟩
          rw [hcount] at h
          simp only [Except.ok.injEq, Prod.mk.injEq] at h
          rcases sonyCount_le hcount with ⟨hstart, hn⟩
          have hmul : size * count ≤ 4 * 64 := Nat.mul_le_mul hle hn
          omega

section Append

variable {cap : Nat}

theorem appendAll_concat (t : Table cap) (values : List Nat) (v : Nat) :
    appendAll t (values ++ [v]) = { (appendAll t values).write (appendAll t values).count v with
      count := u8 ((appendAll t values).count + 1) } := by
  unfold appendAll
  rw [List.foldl_concat]

theorem appendAll_count (t : Table cap) (values : List Nat)
    (h : t.count + values.length < 256) :
    (appendAll t values).count = t.count + values.length := by
  induction values using List.reverseRecOn with
  | nil => rfl
  | append_singleton values v ih =>
      rw [List.length_append, List.length_singleton] at h ⊢
      rw [appendAll_concat, ih (by omega)]
      exact u8_of_lt (by omega)

theorem appendAll_escaped (t : Table cap) (values : List Nat)
    (h : t.count + values.length < 256) (hfits : t.count + values.length ≤ cap) :
    (appendAll t values).escaped = t.escaped := by
  induction values using List.reverseRecOn with
  | nil => rfl
  | append_singleton values v ih =>
      rw [List.length_append, List.length_singleton] at h hfits
      rw [appendAll_concat, appendAll_count t values (by omega)]
      simp only [Table.write, ih (by omega) (by omega), Bool.or_eq_left_iff_imp,
        decide_eq_true_eq]
      omega

end Append

end Ptp

end TimelapsePlus
