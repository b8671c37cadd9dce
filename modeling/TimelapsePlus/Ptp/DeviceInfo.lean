import Mathlib.Data.List.Basic
import TimelapsePlus.Lib.CString
import TimelapsePlus.Lib.Run
import TimelapsePlus.Ptp.Driver

/-!
# The Names of the Camera

`PTP_GetDeviceInfo` finds its way through the reply with what the camera is. Some of the
parts of the reply are strings, a count of characters of two bytes each and then the
characters, and three of them are kept: the manufacturer, the model and the serial number.

A string is brought into a buffer on the stack first, the low byte of every character. Its
last character is not copied, as it is taken for the NUL, and a NUL is written in its place.
So the count is lowered before it is tested, and one of zero comes to 255 characters and a
NUL behind them.

## Main definitions

* `unicodeToASCII`: `UnicodeToASCII`, as the bytes it writes.
* `AsciiSound`: What it is to write.
* `shortenMark`: The loops that make "Mk" of "Mark".
* `DeviceInfo`: What `PTP_GetDeviceInfo` keeps.
* `getDeviceInfo`: `PTP_GetDeviceInfo`.
* `DeviceInfo.Terminated`: The names end within their arrays.
* `InfoReply.Counted`: The three strings have a count.

## Theorems

* `length_unicodeToASCII`: How much is written.
* `asciiSound_iff`: It is what it is to be, unless there is nothing to count.
* `nulLast_shortenMark`: The loops leave the last byte of the array alone.
* `getDeviceInfo_isSome`: When a call has a result.
* `getDeviceInfo_kept`: The NULs behind the names stay there.
* `deviceStrings_iff`: When the strings end within their arrays.
* `unicodeToASCII_overruns`: A string with a count of zero.
-/

namespace TimelapsePlus

namespace Ptp

open Word CString

section Ascii

/-- The loop of `UnicodeToASCII`, with the count that has been lowered. -/
def asciiLoop (buffer : Nat → UInt8) : Nat → Nat → List UInt8
  | 0, _ => [0]
  | n + 1, p => buffer p :: asciiLoop buffer n (u16 (p + 2))

/-- `UnicodeToASCII`, as the bytes it writes one after the other. -/
def unicodeToASCII (buffer : Nat → UInt8) (p : Nat) (maxLength : UInt8) : List UInt8 :=
  let charactersRemaining := if buffer p > maxLength then maxLength else buffer p
  -- The type is that of a byte, and the count below zero is 255.
  asciiLoop buffer (charactersRemaining - 1).toNat (u16 (p + 1))

/-- The low bytes of so many characters. -/
def lowBytes (buffer : Nat → UInt8) (p n : Nat) : List UInt8 :=
  (List.range n).map fun i => buffer (u16 (p + 1 + 2 * i))

/-- There is room for what is written, its last byte is a NUL, and the ones before are the
    low bytes of all characters but one, as far as there is room. -/
def AsciiSound (buffer : Nat → UInt8) (p : Nat) (maxLength : UInt8) : Prop :=
  let written := unicodeToASCII buffer p maxLength
  written.length ≤ maxLength.toNat ∧ written.getLast? = some 0 ∧
    written.dropLast = lowBytes buffer p (min (buffer p).toNat maxLength.toNat - 1)

variable (buffer : Nat → UInt8) (p : Nat) (maxLength : UInt8)

theorem asciiLoop_eq (n p : Nat) : asciiLoop buffer n (u16 p) =
    ((List.range n).map fun i => buffer (u16 (p + 2 * i))) ++ [0] := by
  induction n generalizing p with
  | zero => rfl
  | succ n ih =>
      have hnext : u16 (u16 p + 2) = u16 (p + 2) := Nat.mod_add_mod p 65536 2
      rw [asciiLoop, hnext, ih, List.range_succ_eq_map, List.map_cons, List.map_map,
        List.cons_append, Nat.mul_zero, Nat.add_zero]
      refine congrArg _ (congrArg (· ++ [0]) (List.map_congr_left fun i _ => ?_))
      rw [Function.comp_apply, Nat.succ_eq_add_one, Nat.mul_succ, Nat.add_right_comm,
        Nat.add_assoc p]

/-- The low bytes of as many characters as the lowered count says, and a NUL. -/
theorem unicodeToASCII_eq : unicodeToASCII buffer p maxLength =
    lowBytes buffer p ((min (buffer p).toNat maxLength.toNat + 255) % 256) ++ [0] := by
  have hcount : ((if buffer p > maxLength then maxLength else buffer p) - 1).toNat =
      (min (buffer p).toNat maxLength.toNat + 255) % 256 := by
    rw [UInt8.toNat_sub]
    split
    · rename_i hgt
      have hlt : maxLength.toNat < (buffer p).toNat := UInt8.lt_iff_toNat_lt.mp hgt
      rw [Nat.min_eq_right hlt.le, Nat.add_comm]
      rfl
    · rename_i hle
      have hle' : (buffer p).toNat ≤ maxLength.toNat :=
        UInt8.le_iff_toNat_le.mp (UInt8.not_lt.mp hle)
      rw [Nat.min_eq_left hle', Nat.add_comm]
      rfl
  unfold unicodeToASCII
  dsimp only
  rw [hcount, asciiLoop_eq]
  rfl

theorem length_unicodeToASCII : (unicodeToASCII buffer p maxLength).length =
    (min (buffer p).toNat maxLength.toNat + 255) % 256 + 1 := by
  rw [unicodeToASCII_eq, List.length_append, lowBytes, List.length_map, List.length_range]
  rfl

/-- What is written fits, as long as there is something to count. -/
theorem length_unicodeToASCII_le (hmax : maxLength ≠ 0) :
    (unicodeToASCII buffer p maxLength).length ≤ maxLength.toNat ↔ buffer p ≠ 0 := by
  have hbyte := (buffer p).toNat_lt
  have hbyte' := maxLength.toNat_lt
  have hpos : maxLength.toNat ≠ 0 := fun h => hmax (UInt8.toNat_inj.mp h)
  rw [length_unicodeToASCII, ne_eq, ← UInt8.toNat_inj, UInt8.toNat_zero]
  omega

/-- The strings are written as they are to be if and only if there is something to count,
    and room. -/
theorem asciiSound_iff : AsciiSound buffer p maxLength ↔ buffer p ≠ 0 ∧ maxLength ≠ 0 := by
  have hlen := length_unicodeToASCII buffer p maxLength
  constructor
  · rintro ⟨hle, _, _⟩
    have hmax : maxLength ≠ 0 := by
      rintro rfl
      rw [hlen, UInt8.toNat_zero] at hle
      omega
    exact ⟨(length_unicodeToASCII_le buffer p maxLength hmax).mp hle, hmax⟩
  · rintro ⟨hcount, hmax⟩
    have hle := (length_unicodeToASCII_le buffer p maxLength hmax).mpr hcount
    have hfew : (min (buffer p).toNat maxLength.toNat + 255) % 256 =
        min (buffer p).toNat maxLength.toNat - 1 := by
      have hbyte := maxLength.toNat_lt
      rw [hlen] at hle
      omega
    refine ⟨hle, ?_, ?_⟩
    · rw [unicodeToASCII_eq, List.getLast?_concat]
    · rw [unicodeToASCII_eq, List.dropLast_concat, hfew]

end Ascii

section Names

/-- "Mark". -/
def mark : List UInt8 := [0x4D, 0x61, 0x72, 0x6B]

/-- The inner loop: everything after the first letter is moved up by two. -/
def shortenAt (name : List UInt8) (c : Nat) : List UInt8 :=
  (List.range' (c + 1) (20 - c)).foldl (fun name c2 => name.set c2 (name.getD (c2 + 2) 0)) name

/-- The loop that shortens "Mark" to "Mk". -/
def shortenMark (name : List UInt8) : List UInt8 :=
  (List.range 22).foldl
    (fun name c => if strncmp 4 (name.drop c) mark = 0 then shortenAt name c else name) name

/-- `strncpy(name, buf, 22)`, where the name is an array of 23 bytes. -/
def copyName (name buf : List UInt8) : List UInt8 := strncpy 22 buf ++ name.drop 22

/-- The array has its 23 bytes, and the last is a NUL. -/
def NulLast (name : List UInt8) : Prop := name.length = 23 ∧ name[22]? = some 0

variable {name : List UInt8}

theorem nulLast_copyName (h : NulLast name) (buf : List UInt8) : NulLast (copyName name buf) := by
  rcases h with ⟨hlen, hlast⟩
  unfold NulLast copyName
  rw [List.length_append, length_strncpy, List.length_drop, hlen,
    List.getElem?_append_right (by rw [length_strncpy]), length_strncpy, List.getElem?_drop]
  exact ⟨rfl, hlast⟩

theorem nulLast_shortenAt (h : NulLast name) (c : Nat) : NulLast (shortenAt name c) := by
  refine List.foldlRecOn _ _ h fun name h i hi => ?_
  have hlt : i < 22 := by
    have hrange := List.mem_range'_1.mp hi
    omega
  refine ⟨by rw [List.length_set, h.1], ?_⟩
  rw [List.getElem?_set_ne (by omega), h.2]

/-- The last byte of the array is none of those that are moved. -/
theorem nulLast_shortenMark (h : NulLast name) : NulLast (shortenMark name) := by
  refine List.foldlRecOn _ _ h fun name h c _ => ?_
  split
  · exact nulLast_shortenAt h c
  · exact h

end Names

/-- What `PTP_GetDeviceInfo` keeps. The two lists are pointers into the buffer. -/
structure DeviceInfo where
  supportedOperationsCount : Nat
  supportedOperations : Nat
  supportedPropertiesCount : Nat
  supportedProperties : Nat
  cameraMake : List UInt8
  cameraModel : List UInt8
  cameraSerial : List UInt8

/-- The variables before the first call. -/
def DeviceInfo.initial : DeviceInfo where
  supportedOperationsCount := 0
  supportedOperations := 0
  supportedPropertiesCount := 0
  supportedProperties := 0
  cameraMake := List.replicate 23 0
  cameraModel := List.replicate 23 0
  cameraSerial := List.replicate 23 0

/-- What a call finds: the memory from `PTP_Buffer[0]` on, if the transaction has not failed,
    and what there is on the stack where `buf` is. -/
structure InfoReply where
  buffer : Option (Nat → UInt8)
  buf : List UInt8

/-- The position after a string, and after an array of words. -/
def skipString (buffer : Nat → UInt8) (p : Nat) : Nat := u16 (p + (1 + 2 * (buffer p).toNat))
def skipArray (buffer : Nat → UInt8) (p : Nat) : Nat := u16 (p + (4 + u32 (2 * le32 buffer p)))

/-- Where the parts of the reply are that are read. -/
def operationsPos (buffer : Nat → UInt8) : Nat := u16 (skipString buffer 8 + 2)
def propertiesPos (buffer : Nat → UInt8) : Nat :=
  skipArray buffer (skipArray buffer (operationsPos buffer))
def makePos (buffer : Nat → UInt8) : Nat :=
  skipArray buffer (skipArray buffer (skipArray buffer (propertiesPos buffer)))
def modelPos (buffer : Nat → UInt8) : Nat := skipString buffer (makePos buffer)
def serialPos (buffer : Nat → UInt8) : Nat :=
  skipString buffer (skipString buffer (modelPos buffer))

/-- `buf` with a string in it. There is none if the string does not fit. -/
def readString (buffer : Nat → UInt8) (p : Nat) (buf : List UInt8) : Option (List UInt8) :=
  let written := unicodeToASCII buffer p 44
  if written.length ≤ 44 then some (written ++ buf.drop written.length) else none

/-- `PTP_GetDeviceInfo`. There is no result if a write goes past the end of `buf`. -/
def getDeviceInfo (s : DeviceInfo) (r : InfoReply) : Option DeviceInfo :=
  match r.buffer with
  | none => some s
  | some buffer => do
      let bufMake ← readString buffer (makePos buffer) r.buf
      let bufModel ← readString buffer (modelPos buffer) bufMake
      let bufSerial ← readString buffer (serialPos buffer) bufModel
      some {
        supportedOperationsCount := u16 (le32 buffer (operationsPos buffer))
        supportedOperations := u16 (operationsPos buffer + 4)
        supportedPropertiesCount := u16 (le32 buffer (propertiesPos buffer))
        supportedProperties := u16 (propertiesPos buffer + 4)
        cameraMake := copyName s.cameraMake bufMake
        cameraModel := shortenMark (copyName s.cameraModel bufModel)
        cameraSerial := copyName s.cameraSerial bufSerial }

namespace DeviceInfo

/-- The names end within their arrays. -/
def Terminated (s : DeviceInfo) : Prop :=
  ∀ name ∈ [s.cameraMake, s.cameraModel, s.cameraSerial], name.length = 23 ∧ 0 ∈ name

/-- What keeps them so. -/
structure Kept (s : DeviceInfo) : Prop where
  make : NulLast s.cameraMake
  model : NulLast s.cameraModel
  serial : NulLast s.cameraSerial

theorem kept_initial : initial.Kept := ⟨⟨rfl, rfl⟩, ⟨rfl, rfl⟩, ⟨rfl, rfl⟩⟩

theorem Kept.terminated {s : DeviceInfo} (h : s.Kept) : s.Terminated := by
  have hmem : ∀ name, NulLast name → name.length = 23 ∧ 0 ∈ name :=
    fun name hname => ⟨hname.1, List.mem_of_getElem? hname.2⟩
  intro name hname
  rw [List.mem_cons, List.mem_cons, List.mem_singleton] at hname
  rcases hname with rfl | rfl | rfl
  · exact hmem _ h.make
  · exact hmem _ h.model
  · exact hmem _ h.serial

end DeviceInfo

/-- The three strings have a count, if there is a reply. -/
def InfoReply.Counted (r : InfoReply) : Prop :=
  ∀ buffer, r.buffer = some buffer →
    buffer (makePos buffer) ≠ 0 ∧ buffer (modelPos buffer) ≠ 0 ∧ buffer (serialPos buffer) ≠ 0

theorem readString_isSome (buffer : Nat → UInt8) (p : Nat) (buf : List UInt8) :
    (∃ buf', readString buffer p buf = some buf') ↔ buffer p ≠ 0 := by
  rw [← length_unicodeToASCII_le buffer p 44 (by decide)]
  unfold readString
  by_cases hfit : (unicodeToASCII buffer p 44).length ≤ 44
  · rw [if_pos hfit]
    exact ⟨fun _ => hfit, fun _ => ⟨_, rfl⟩⟩
  · rw [if_neg hfit]
    exact ⟨fun h => absurd h.choose_spec (by simp only [reduceCtorEq, not_false_eq_true]),
      fun h => absurd h hfit⟩

/-- A call has a result if and only if the strings have a count, -/
theorem getDeviceInfo_isSome (s : DeviceInfo) (r : InfoReply) :
    (∃ s', getDeviceInfo s r = some s') ↔ r.Counted := by
  unfold getDeviceInfo InfoReply.Counted
  cases r.buffer with
  | none => exact ⟨fun _ _ h => absurd h (by simp only [reduceCtorEq, not_false_eq_true]),
      fun _ => ⟨s, rfl⟩⟩
  | some buffer =>
      simp only [Option.some.injEq, forall_eq', Option.bind_eq_bind, Option.bind_eq_some_iff]
      constructor
      · rintro ⟨s', bufMake, hmake, bufModel, hmodel, bufSerial, hserial, _⟩
        exact ⟨(readString_isSome _ _ _).mp ⟨_, hmake⟩, (readString_isSome _ _ _).mp ⟨_, hmodel⟩,
          (readString_isSome _ _ _).mp ⟨_, hserial⟩⟩
      · rintro ⟨hmake, hmodel, hserial⟩
        rcases (readString_isSome _ _ r.buf).mpr hmake with ⟨bufMake, hmake⟩
        rcases (readString_isSome _ _ bufMake).mpr hmodel with ⟨bufModel, hmodel⟩
        rcases (readString_isSome _ _ bufModel).mpr hserial with ⟨bufSerial, hserial⟩
        exact ⟨_, bufMake, hmake, bufModel, hmodel, bufSerial, hserial, rfl⟩

/-- and the last bytes of the arrays stay what they are. -/
theorem getDeviceInfo_kept {s s' : DeviceInfo} {r : InfoReply} (h : s.Kept)
    (hstep : getDeviceInfo s r = some s') : s'.Kept := by
  unfold getDeviceInfo at hstep
  cases hreply : r.buffer with
  | none =>
      rw [hreply, Option.some.injEq] at hstep
      rw [← hstep]
      exact h
  | some buffer =>
      rw [hreply] at hstep
      simp only [Option.bind_eq_bind, Option.bind_eq_some_iff, Option.some.injEq] at hstep
      rcases hstep with ⟨bufMake, _, bufModel, _, bufSerial, _, rfl⟩
      have hmodel := nulLast_shortenMark (nulLast_copyName h.model bufModel)
      refine ⟨nulLast_copyName h.make bufMake, ?_, nulLast_copyName h.serial bufSerial⟩
      dsimp only
      exact hmodel

/-- All calls have a result, and leave the names as they are to be, if and only if the strings
    of all replies have a count. -/
theorem steps_terminated_iff {s : DeviceInfo} (h : s.Kept) (replies : List InfoReply) :
    (∃ s', steps getDeviceInfo s replies = some s' ∧ s'.Terminated) ↔
      ∀ r ∈ replies, r.Counted := by
  induction replies generalizing s with
  | nil =>
      refine ⟨fun _ r hr => absurd hr List.not_mem_nil, fun _ => ⟨s, rfl, h.terminated⟩⟩
  | cons r replies ih =>
      rw [List.forall_mem_cons, ← getDeviceInfo_isSome s r, steps]
      cases hstep : getDeviceInfo s r with
      | none => simp only [reduceCtorEq, false_and, exists_false]
      | some t =>
          rw [ih (getDeviceInfo_kept h hstep)]
          exact ⟨fun hrest => ⟨⟨t, rfl⟩, hrest⟩, fun hall => hall.2⟩

/-- A string is written as it is to be if and only if its count is not zero, and the names end
    within their arrays, after any calls, if and only if none of their counts was. -/
theorem deviceStrings_iff (buffer : Nat → UInt8) (p : Nat) (maxLength : UInt8)
    (replies : List InfoReply) :
    (AsciiSound buffer p maxLength ↔ buffer p ≠ 0 ∧ maxLength ≠ 0) ∧
      ((∃ s, steps getDeviceInfo DeviceInfo.initial replies = some s ∧ s.Terminated) ↔
        ∀ r ∈ replies, r.Counted) :=
  ⟨asciiSound_iff buffer p maxLength, steps_terminated_iff DeviceInfo.kept_initial replies⟩

/-- A count of zero: 256 bytes are written where there is room for 44. It is the count of an
    empty string, and here all strings of the reply are empty. -/
theorem unicodeToASCII_overruns :
    (unicodeToASCII (fun _ => 0) 0 44).length = 256 ∧ ¬ AsciiSound (fun _ => 0) 0 44 ∧
      getDeviceInfo .initial ⟨some fun _ => 0, []⟩ = none := by
  have hlen : (unicodeToASCII (fun _ => 0) 0 44).length = 256 :=
    length_unicodeToASCII (fun _ => 0) 0 44
  refine ⟨hlen, fun h => ?_, ?_⟩
  · have hle := h.1
    rw [hlen] at hle
    exact absurd hle (by decide)
  · cases hres : getDeviceInfo .initial ⟨some fun _ => 0, []⟩ with
    | none => rfl
    | some s => exact absurd rfl ((getDeviceInfo_isSome _ _).mp ⟨s, hres⟩ _ rfl).1

end Ptp

end TimelapsePlus
