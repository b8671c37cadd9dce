import TimelapsePlus.Ptp.Camera
import TimelapsePlus.Ptp.Driver

/-!
# Nikon Replies

What the firmware reads out of the replies of a Nikon camera: the list of
events, and the descriptions of the ISO, aperture and shutter properties. Both
are read from one buffer; a reply that does not fit in one is taken for an
error by the callers.

A description holds a count byte and the values that can be set. The count is
taken as it is, and the values are read up to a limit that has nothing to do
with the size of the array they are stored in.

## Main definitions

* `nikonEvents`: The events of a reply.
* `Camera.applyPtpEvent`: What an event changes.
* `fillUpTo`: Filling a table from a count and a limit.
* `Camera.describeIso`, `Camera.describeAperture`, `Camera.describeShutter`:
  Reading the description of a property.

## Theorems

* `fillUpTo_count`: The count is the camera's.
* `fillUpTo_escaped`: When the filling goes outside the array.
-/

namespace TimelapsePlus

namespace Ptp

open Word

def nikonOcEventGet : Nat := 0x90C7
def nikonOcCameraReady : Nat := 0x90C8
def ptpOcPropertyList : Nat := 0x1014

def nikonDpcAperture : Nat := 0x5007
def nikonDpcShutter : Nat := 0x500D
def nikonDpcIso : Nat := 0x500F

def ptpEcObjectCreated : Nat := 0x4002
def ptpEcPropertyChanged : Nat := 0x4006

/-- The events of a reply to `NIKON_OC_EVENT_GET` from an index on, a code and a
    value each. The bound on their number is never the reason to stop. -/
def nikonEvents (buffer : Nat → UInt8) (received : Nat) : Nat → Nat → List (Nat × Nat)
  | 0, _ => []
  | n + 1, i =>
      if received ≤ i then []
      else (le16 buffer i, le32 buffer (i + 2)) ::
        if bufferSize ≤ i + 6 then [] else nikonEvents buffer received n (i + 6)

/-- What an event changes. -/
def Camera.applyPtpEvent (c : Camera) (event : Nat × Nat) : Camera :=
  if event.1 = ptpEcObjectCreated then { c with currentObject := event.2 }
  else if event.1 = ptpEcPropertyChanged then { c with needUpdate := true }
  else c

/-- The fill loops of `updatePtpParameters`: the count is set, and values are
    stored below it and below the limit. -/
def fillUpTo {cap : Nat} (limit : Nat) (t : Table cap) (count : Nat) (value : Nat → Nat) :
    Table cap :=
  (List.range (min count limit)).foldl (fun t i => t.write i (value i)) { t with count := count }

namespace Camera

/-- The part of `updatePtpParameters` that reads the description of the ISO. -/
def describeIso (c : Camera) (received : Nat) (buffer : Nat → UInt8) : Camera :=
  if 10 < received ∧ (buffer 2).toNat = 4 then
    let count := (buffer 10).toNat
    { c with
      isoAvail := fillUpTo 32 c.isoAvail count fun i =>
        isoEv c.protocol.propertyOffset (le16 buffer (12 + 2 * i))
      supports.iso := decide (0 < count)
      isoPTP := le16 buffer 7 }
  else c

/-- The part of `updatePtpParameters` that reads the description of the
    aperture. -/
def describeAperture (c : Camera) (received : Nat) (buffer : Nat → UInt8) : Camera :=
  if 10 < received ∧ (buffer 2).toNat = 4 then
    let count := (buffer 10).toNat
    { c with
      apertureAvail := fillUpTo 32 c.apertureAvail count fun i =>
        apertureEv c.protocol.propertyOffset (le16 buffer (12 + 2 * i))
      supports.aperture := decide (0 < count)
      aperturePTP := le16 buffer 7 }
  else c

/-- The part of `updatePtpParameters` that reads the description of the
    shutter. -/
def describeShutter (c : Camera) (received : Nat) (buffer : Nat → UInt8) : Camera :=
  if 14 < received ∧ (buffer 2).toNat = 6 then
    let count := (buffer 14).toNat
    { c with
      shutterAvail := fillUpTo 64 c.shutterAvail count fun i =>
        shutterEv c.protocol.propertyOffset (le32 buffer (16 + 4 * i))
      supports.shutter := decide (0 < count)
      shutterPTP := le32 buffer 9 }
  else c

end Camera

section Fill

variable {cap : Nat}

theorem foldl_write_count (t : Table cap) (value : Nat → Nat) (n : Nat) :
    ((List.range n).foldl (fun t i => t.write i (value i)) t).count = t.count := by
  induction n with
  | zero => rfl
  | succ k ih => rw [List.range_succ, List.foldl_concat, Table.write_count, ih]

theorem foldl_write_escaped (t : Table cap) (value : Nat → Nat) (n : Nat) :
    ((List.range n).foldl (fun t i => t.write i (value i)) t).escaped = false ↔
      t.escaped = false ∧ n ≤ cap := by
  induction n with
  | zero => simp only [List.range_zero, List.foldl_nil, Nat.zero_le, and_true]
  | succ k ih =>
      rw [List.range_succ, List.foldl_concat, Table.write_escaped, ih, and_assoc]
      refine and_congr_right fun _ => ?_
      omega

/-- The count is the camera's, whatever the size of the array. -/
theorem fillUpTo_count (limit : Nat) (t : Table cap) (count : Nat) (value : Nat → Nat) :
    (fillUpTo limit t count value).count = count :=
  foldl_write_count _ value _

/-- The filling stays inside when the count or the limit does. -/
theorem fillUpTo_escaped (limit : Nat) (t : Table cap) (count : Nat) (value : Nat → Nat) :
    (fillUpTo limit t count value).escaped = false ↔
      t.escaped = false ∧ min count limit ≤ cap :=
  foldl_write_escaped _ value _

end Fill

end Ptp

end TimelapsePlus
