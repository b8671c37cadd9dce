import Mathlib.Data.List.Nodup

/-!
# PTP Code Tables

The tables of camera property codes, and the lookups between a code and the
exposure value it stands for. An exposure value (`ev`) is a count of third
stops; larger values are shorter exposures, narrower apertures and lower
sensitivities.

Every protocol names the same settings by different numbers, so an entry
carries one code for each, and the offset chosen when the camera is
initialised says which of them the lookups compare. A code that no entry
carries has the value zero, which no entry has; the code that reads a camera's
list of values relies on that to tell the codes it knows from the rest.

## Main definitions

* `PropertyDescription`: One setting, with its code in each protocol.
* `PropertyOffset`: Which of the codes a lookup compares.
* `ptpApertureList`, `ptpShutterList`, `ptpIsoList`: The tables.
* `BulbSettings`, `bulbList`: The timed exposures.
* `isoEv`, `shutterEv`, `apertureEv`: From a code to its value.
* `isoEvPTP`, `shutterEvPTP`, `apertureEvPTP`: From a value to its code.

## Theorems

* `codeOf_evOf`: From a code to its value and back.
* `isoEv_eos_eq_zero`, `apertureEv_eos_eq_zero`: No Canon code is larger than a byte.
-/

namespace TimelapsePlus

namespace Ptp

/-- A setting of the camera: its code in each protocol and its value in third
    stops. -/
structure PropertyDescription where
  eos : Nat
  nikon : Nat
  sony : Nat
  ev : Nat
deriving Repr, DecidableEq

/-- A timed exposure: its length in milliseconds and its value. -/
structure BulbSettings where
  ms : Nat
  ev : Nat
deriving Repr, DecidableEq

/-- The field of an entry a lookup compares. -/
inductive PropertyOffset
  | eos
  | nikon
  | sony
deriving Repr, DecidableEq

/-- The code of an entry at an offset. -/
def PropertyDescription.code (d : PropertyDescription) : PropertyOffset → Nat
  | .eos => d.eos
  | .nikon => d.nikon
  | .sony => d.sony

/-- The value of the shutter setting that holds the shutter open. -/
def bulbEvCode : Nat := 253

def ptpApertureList : List PropertyDescription :=
  [ ⟨0xFF, 0, 0, 255⟩, ⟨0x0d, 120, 120, 2⟩, ⟨0x10, 140, 140, 3⟩, ⟨0x13, 160, 160, 4⟩,
    ⟨0x15, 180, 180, 5⟩, ⟨0x18, 200, 200, 6⟩, ⟨0x1b, 220, 220, 7⟩, ⟨0x1d, 250, 250, 8⟩,
    ⟨0x20, 280, 280, 9⟩, ⟨0x23, 320, 320, 10⟩, ⟨0x25, 350, 350, 11⟩, ⟨0x28, 400, 400, 12⟩,
    ⟨0x2b, 450, 450, 13⟩, ⟨0x2d, 500, 500, 14⟩, ⟨0x30, 560, 560, 15⟩, ⟨0x33, 630, 630, 16⟩,
    ⟨0x35, 710, 710, 17⟩, ⟨0x38, 800, 800, 18⟩, ⟨0x3b, 900, 900, 19⟩, ⟨0x3d, 1000, 1000, 20⟩,
    ⟨0x40, 1100, 1100, 21⟩, ⟨0x43, 1300, 1300, 22⟩, ⟨0x45, 1400, 1400, 23⟩,
    ⟨0x48, 1600, 1600, 24⟩, ⟨0x4b, 1800, 1800, 25⟩, ⟨0x4d, 2000, 2000, 26⟩,
    ⟨0x50, 2200, 2200, 27⟩, ⟨0x53, 2500, 2500, 28⟩, ⟨0x55, 2900, 2900, 29⟩,
    ⟨0x58, 3200, 3200, 30⟩, ⟨0x5b, 3600, 3600, 31⟩ ]

def ptpShutterList : List PropertyDescription :=
  [ ⟨0xFF, 0x00000000, 0xffffffff, 255⟩, ⟨0xa0, 0x00000000, 0x010000 ||| 8000, 82⟩,
    ⟨0x9d, 0x00000000, 0x010000 ||| 6400, 81⟩, ⟨0x9b, 0x00000000, 0x010000 ||| 5000, 80⟩,
    ⟨0x98, 2, 0x010000 ||| 4000, 79⟩, ⟨0x95, 3, 0x010000 ||| 3200, 78⟩,
    ⟨0x93, 4, 0x010000 ||| 2500, 77⟩, ⟨0x90, 5, 0x010000 ||| 2000, 76⟩,
    ⟨0x8d, 6, 0x010000 ||| 1600, 75⟩, ⟨0x8b, 8, 0x010000 ||| 1250, 74⟩,
    ⟨0x88, 10, 0x010000 ||| 1000, 73⟩, ⟨0x85, 12, 0x010000 ||| 800, 72⟩,
    ⟨0x83, 15, 0x010000 ||| 640, 71⟩, ⟨0x80, 20, 0x010000 ||| 500, 70⟩,
    ⟨0x7d, 25, 0x010000 ||| 400, 69⟩, ⟨0x7b, 31, 0x010000 ||| 320, 68⟩,
    ⟨0x78, 40, 0x010000 ||| 250, 67⟩, ⟨0x75, 50, 0x010000 ||| 200, 66⟩,
    ⟨0x73, 62, 0x010000 ||| 160, 65⟩, ⟨0x70, 80, 0x010000 ||| 125, 64⟩,
    ⟨0x6d, 100, 0x010000 ||| 100, 63⟩, ⟨0x6b, 125, 0x010000 ||| 80, 62⟩,
    ⟨0x68, 166, 0x010000 ||| 60, 61⟩, ⟨0x65, 200, 0x010000 ||| 50, 60⟩,
    ⟨0x63, 250, 0x010000 ||| 40, 59⟩, ⟨0x60, 333, 0x010000 ||| 30, 58⟩,
    ⟨0x5d, 400, 0x010000 ||| 25, 57⟩, ⟨0x5b, 500, 0x010000 ||| 20, 56⟩,
    ⟨0x58, 666, 0x010000 ||| 15, 55⟩, ⟨0x55, 769, 0x010000 ||| 13, 54⟩,
    ⟨0x53, 1000, 0x010000 ||| 10, 53⟩, ⟨0x50, 1250, 0x010000 ||| 8, 52⟩,
    ⟨0x4d, 1666, 0x010000 ||| 6, 51⟩, ⟨0x4b, 2000, 0x010000 ||| 5, 50⟩,
    ⟨0x48, 2500, 0x010000 ||| 4, 49⟩, ⟨0x45, 3333, 0x010000 ||| 3, 48⟩,
    ⟨0x43, 4000, 0x040000 ||| 10, 47⟩, ⟨0x40, 5000, 0x050000 ||| 10, 46⟩,
    ⟨0x3d, 6250, 0x060000 ||| 10, 45⟩, ⟨0x3b, 7692, 0x080000 ||| 10, 44⟩,
    ⟨0x38, 10000, 0x0A0000 ||| 10, 43⟩, ⟨0x35, 13000, 0x0D0000 ||| 10, 42⟩,
    ⟨0x33, 16000, 0x100000 ||| 10, 41⟩, ⟨0x30, 20000, 0x140000 ||| 10, 40⟩,
    ⟨0x2d, 25000, 0x190000 ||| 10, 39⟩, ⟨0x2b, 30000, 0x200000 ||| 10, 38⟩,
    ⟨0x28, 40000, 0x280000 ||| 10, 37⟩, ⟨0x25, 50000, 0x320000 ||| 10, 36⟩,
    ⟨0x23, 60000, 0x3C0000 ||| 10, 35⟩, ⟨0x20, 80000, 0x500000 ||| 10, 34⟩,
    ⟨0x1d, 100000, 0x640000 ||| 10, 33⟩, ⟨0x1b, 130000, 0x820000 ||| 10, 32⟩,
    ⟨0x18, 150000, 0x960000 ||| 10, 31⟩, ⟨0x15, 200000, 0xC80000 ||| 10, 30⟩,
    ⟨0x13, 250000, 0xFA0000 ||| 10, 29⟩, ⟨0x10, 300000, 0x12C0000 ||| 10, 28⟩,
    ⟨0x0c, 0xffffffff, 0, bulbEvCode⟩ ]

def ptpIsoList : List PropertyDescription :=
  [ ⟨0xFF, 0x000000FF, 0, 255⟩, ⟨0x00, 0x00000000, 16777215, 254⟩, ⟨0x3b, 32, 32, 48⟩,
    ⟨0x3d, 40, 40, 47⟩, ⟨0x40, 50, 50, 46⟩, ⟨0x43, 64, 64, 45⟩, ⟨0x45, 80, 80, 44⟩,
    ⟨0x48, 100, 100, 43⟩, ⟨0x4b, 125, 125, 42⟩, ⟨0x4d, 160, 160, 41⟩, ⟨0x50, 200, 200, 40⟩,
    ⟨0x53, 250, 250, 39⟩, ⟨0x55, 320, 320, 38⟩, ⟨0x58, 400, 400, 37⟩, ⟨0x5b, 500, 500, 36⟩,
    ⟨0x5d, 640, 640, 35⟩, ⟨0x60, 800, 800, 34⟩, ⟨0x63, 1000, 1000, 33⟩, ⟨0x65, 1250, 1250, 32⟩,
    ⟨0x68, 1600, 1600, 31⟩, ⟨0x6B, 2000, 2000, 30⟩, ⟨0x6D, 2500, 2500, 29⟩,
    ⟨0x70, 3200, 3200, 28⟩, ⟨0x73, 4000, 4000, 27⟩, ⟨0x75, 5000, 5000, 26⟩,
    ⟨0x78, 6400, 6400, 25⟩, ⟨0x7B, 8000, 8000, 24⟩, ⟨0x7D, 10000, 10000, 23⟩,
    ⟨0x80, 12800, 12800, 22⟩, ⟨0x83, 16000, 16000, 21⟩, ⟨0x85, 20000, 20000, 20⟩,
    ⟨0x88, 25600, 25600, 19⟩, ⟨0x8B, 32000, 32000, 18⟩, ⟨0x8D, 40000, 40000, 17⟩,
    ⟨0x90, 51200, 51200, 16⟩, ⟨0x93, 64000, 64000, 15⟩, ⟨0x95, 81000, 81000, 14⟩ ]

def bulbList : List BulbSettings :=
  [ ⟨0, 254⟩, ⟨15, 61⟩, ⟨19, 60⟩, ⟨25, 59⟩, ⟨31, 58⟩, ⟨39, 57⟩, ⟨49, 56⟩, ⟨62, 55⟩, ⟨79, 54⟩,
    ⟨99, 53⟩, ⟨125, 52⟩, ⟨157, 51⟩, ⟨198, 50⟩, ⟨250, 49⟩, ⟨315, 48⟩, ⟨397, 47⟩, ⟨500, 46⟩,
    ⟨630, 45⟩, ⟨794, 44⟩, ⟨1000, 43⟩, ⟨1260, 42⟩, ⟨1587, 41⟩, ⟨2000, 40⟩, ⟨2520, 39⟩,
    ⟨3175, 38⟩, ⟨4000, 37⟩, ⟨5040, 36⟩, ⟨6349, 35⟩, ⟨8000, 34⟩, ⟨10079, 33⟩, ⟨12699, 32⟩,
    ⟨16000, 31⟩, ⟨20158, 30⟩, ⟨25398, 29⟩, ⟨32000, 28⟩, ⟨40320, 27⟩, ⟨50800, 26⟩, ⟨64000, 25⟩,
    ⟨80630, 24⟩, ⟨101590, 23⟩, ⟨128000, 22⟩, ⟨161270, 21⟩, ⟨203180, 20⟩, ⟨256000, 19⟩,
    ⟨322530, 18⟩, ⟨406360, 17⟩, ⟨512000, 16⟩, ⟨645070, 15⟩, ⟨812720, 14⟩, ⟨1024000, 13⟩,
    ⟨1290138, 12⟩, ⟨1625444, 11⟩, ⟨2048000, 10⟩, ⟨2580318, 9⟩, ⟨3250997, 8⟩, ⟨4096000, 7⟩,
    ⟨5160637, 6⟩, ⟨6501995, 5⟩, ⟨8192000, 4⟩ ]

/-- The value of the first entry whose code is `id`, or zero. -/
def evOf (table : List PropertyDescription) (offset : PropertyOffset) (id : Nat) : Nat :=
  match table.find? (fun d => d.code offset == id) with
  | some d => d.ev
  | none => 0

/-- The code of the first entry whose value is `ev`, or zero. -/
def codeOf (table : List PropertyDescription) (offset : PropertyOffset) (ev : Nat) : Nat :=
  match table.find? (fun d => d.ev == ev) with
  | some d => d.code offset
  | none => 0

def isoEv (offset : PropertyOffset) (id : Nat) : Nat := evOf ptpIsoList offset id

def shutterEv (offset : PropertyOffset) (id : Nat) : Nat := evOf ptpShutterList offset id

def apertureEv (offset : PropertyOffset) (id : Nat) : Nat := evOf ptpApertureList offset id

def isoEvPTP (offset : PropertyOffset) (ev : Nat) : Nat := codeOf ptpIsoList offset ev

def shutterEvPTP (offset : PropertyOffset) (ev : Nat) : Nat := codeOf ptpShutterList offset ev

def apertureEvPTP (offset : PropertyOffset) (ev : Nat) : Nat := codeOf ptpApertureList offset ev

/-- A table whose codes are all below a bound has no value for a code above
    it. -/
theorem evOf_eq_zero (table : List PropertyDescription) (offset : PropertyOffset)
    (id bound : Nat) (h : ∀ d ∈ table, d.code offset < bound) (hid : bound ≤ id) :
    evOf table offset id = 0 := by
  have hnone : table.find? (fun d => d.code offset == id) = none := by
    rw [List.find?_eq_none]
    intro d hd heq
    have hlt := h d hd
    rw [beq_iff_eq] at heq
    omega
  rw [evOf, hnone]

/-- A table in which no two codes share a value leads from a known code to its
    value and back. -/
theorem codeOf_evOf (table : List PropertyDescription) (offset : PropertyOffset) (id : Nat)
    (hdistinct : ∀ d ∈ table, ∀ d' ∈ table, d.ev = d'.ev → d.code offset = d'.code offset)
    (hid : evOf table offset id ≠ 0) : codeOf table offset (evOf table offset id) = id := by
  unfold evOf at hid ⊢
  cases hf : table.find? (fun d => d.code offset == id) with
  | none => simp [hf] at hid
  | some d =>
      have hd := List.mem_of_find?_eq_some hf
      have hcode := List.find?_some hf
      rw [beq_iff_eq] at hcode
      unfold codeOf
      cases hg : table.find? (fun e => e.ev == d.ev) with
      | none =>
          rw [List.find?_eq_none] at hg
          exact absurd (beq_self_eq_true d.ev) (hg d hd)
      | some e =>
          have hev := List.find?_some hg
          rw [beq_iff_eq] at hev
          rw [← hcode]
          exact hdistinct e (List.mem_of_find?_eq_some hg) d hd hev

theorem ptpShutterList_nodup : (ptpShutterList.map PropertyDescription.ev).Nodup := by
  decide +kernel

theorem shutterEvPTP_shutterEv {offset : PropertyOffset} {id : Nat}
    (hid : shutterEv offset id ≠ 0) : shutterEvPTP offset (shutterEv offset id) = id := by
  refine codeOf_evOf ptpShutterList offset id (fun d hd d' hd' hev => ?_) hid
  rw [List.inj_on_of_nodup_map ptpShutterList_nodup hd hd' hev]

theorem isoEv_eos_eq_zero {id : Nat} (h : 256 ≤ id) : isoEv .eos id = 0 :=
  evOf_eq_zero ptpIsoList .eos id 256 (by decide) h

theorem apertureEv_eos_eq_zero {id : Nat} (h : 256 ≤ id) : apertureEv .eos id = 0 :=
  evOf_eq_zero ptpApertureList .eos id 256 (by decide) h

end Ptp

end TimelapsePlus
