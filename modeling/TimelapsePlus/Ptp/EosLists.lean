import Mathlib.Data.List.TakeWhile
import TimelapsePlus.Ptp.EosBounds

/-!
# Canon Value Lists

What the three list loops of the Canon parser leave in the tables. A list is a
sequence of 32-bit codes, of which the loops look at the low byte only. The
ISO and aperture loops keep the values of the codes whose low byte the code
table knows. The shutter loop tests the entry at its count and not the one it
has just written, so it counts the codes up to the first it does not know, and
none after it.

So the ISO and aperture tables are what they should be unless a code above 255
has the low byte of a known code; and the shutter table is unless the known
codes of the list are others than those its first codes look like.

## Main definitions

* `recognised`: The value of a code, if the code tables know it.
* `eventCodes`: The codes an event lists.
* `Camera.evOf`, `Camera.listedValues`: The code table and the table of values
  of a property.
* `ListEvent`: A well-formed event that lists values.
* `InOrder`: The condition under which a list is read right.

## Theorems

* `fillCompact_listed`: What the ISO and aperture loops leave.
* `fillShutter_listed`: What the shutter loop leaves.
* `valueList_iff`: When a table is the list of the known codes.
* `shutterList_unknown_first`: A list on which the shutter table is not.
-/

namespace TimelapsePlus

namespace Ptp

open Word Usb

/-- The value of a code, if the code tables know it. -/
def recognised (ev : Nat → Nat) (code : Nat) : Option Nat :=
  if ev code = 0 then none else some (ev code)

section Compact

variable {cap : Nat} (ev : Nat → Nat)

/-- After the codes seen, the entries below the index are their values. -/
structure CompactInvariant (seen : List Nat) (s : Table cap × Nat) : Prop where
  index : s.2 = (seen.filterMap (recognised ev)).length
  items : (List.range s.2).map s.1.item = seen.filterMap (recognised ev)

theorem map_range_write (t : Table cap) (k v : Nat) :
    (List.range k).map (t.write k v).item = (List.range k).map t.item :=
  List.map_congr_left fun _ hj =>
    Table.write_item_of_ne t v (Nat.ne_of_lt (List.mem_range.mp hj))

theorem fillCompactStep_invariant (seen : List Nat) (s : Table cap × Nat) (code : Nat)
    (hlen : seen.length < 255) (h : CompactInvariant ev seen s) :
    CompactInvariant ev (seen ++ [code]) (fillCompactStep ev s code) := by
  have hindex : s.2 < 255 := by
    have := List.length_filterMap_le (recognised ev) seen
    rw [h.index]
    omega
  by_cases hcode : ev code = 0
  · -- The value written is left to be overwritten.
    have hnone : [code].filterMap (recognised ev) = [] := by simp [recognised, hcode]
    have hstep : fillCompactStep ev s code = (s.1.write s.2 (ev code), s.2) := by
      simp [fillCompactStep, hcode]
    rw [hstep]
    constructor
    · rw [List.filterMap_append, hnone, List.append_nil]
      exact h.index
    · rw [List.filterMap_append, hnone, List.append_nil, map_range_write]
      exact h.items
  · have hsome : [code].filterMap (recognised ev) = [ev code] := by simp [recognised, hcode]
    have hstep : fillCompactStep ev s code = (s.1.write s.2 (ev code), s.2 + 1) := by
      have hpos : 0 < ev code := Nat.pos_of_ne_zero hcode
      simp [fillCompactStep, hpos, u8_of_lt (show s.2 + 1 < 256 by omega)]
    rw [hstep]
    constructor
    · rw [List.filterMap_append, hsome, List.length_append, ← h.index, List.length_singleton]
    · rw [List.filterMap_append, hsome, List.range_succ, List.map_append, map_range_write, h.items,
        List.map_singleton, Table.write_item_self]

theorem foldl_fillCompactStep_invariant (codes seen : List Nat) (s : Table cap × Nat)
    (hlen : (seen ++ codes).length < 256) (h : CompactInvariant ev seen s) :
    CompactInvariant ev (seen ++ codes) (codes.foldl (fillCompactStep ev) s) := by
  induction codes generalizing seen s with
  | nil => rwa [List.append_nil]
  | cons code rest ih =>
      have hstep := fillCompactStep_invariant ev seen s code
        (by rw [List.length_append, List.length_cons] at hlen; omega) h
      have hrest := ih (seen ++ [code]) _ (by rwa [List.append_assoc]) hstep
      rwa [List.append_assoc] at hrest

/-- The ISO and aperture loops leave the values of the codes that are known, in
    their order. -/
theorem fillCompact_listed (t : Table cap) (codes : List Nat) (hlen : codes.length < 256) :
    (fillCompact ev t codes).listed = codes.filterMap (recognised ev) :=
  (foldl_fillCompactStep_invariant ev codes [] (t, 0) hlen ⟨rfl, rfl⟩).items

end Compact

section Shutter

variable {cap : Nat} (ev : Nat → Nat)

/-- After the codes seen, each entry is the value of its code, and the count is
    the number of codes before the first that is not known. -/
structure ShutterInvariant (seen : List Nat) (s : Table cap × Nat × Nat) : Prop where
  position : s.2.1 = seen.length
  items : (List.range s.2.1).map s.1.item = seen.map ev
  leading : ∃ run rest, seen = run ++ rest ∧ s.2.2 = run.length ∧ (∀ code ∈ run, ev code ≠ 0) ∧
    ∀ code ∈ rest.head?, ev code = 0

theorem ShutterInvariant.item (seen : List Nat) (s : Table cap × Nat × Nat)
    (h : ShutterInvariant ev seen s) {k : Nat} (hk : k < seen.length) :
    s.1.item k = ev (seen.get ⟨k, hk⟩) := by
  have hget := congrArg (fun l => l[k]?) h.items
  have hlt : k < s.2.1 := by
    rw [h.position]
    exact hk
  simpa [List.getElem?_map, List.getElem?_range, hlt, hk] using hget

theorem fillShutterStep_invariant (seen : List Nat) (s : Table cap × Nat × Nat) (code : Nat)
    (hlen : seen.length < 255) (h : ShutterInvariant ev seen s) :
    ShutterInvariant ev (seen ++ [code]) (fillShutterStep ev s code) := by
  have hposition := h.position
  rcases h.leading with ⟨run, rest, hseen, hindex, hrun, hrest⟩
  constructor
  · rw [List.length_append, List.length_singleton, ← hposition]
    rfl
  · rw [List.map_append, ← h.items]
    change (List.range (s.2.1 + 1)).map (s.1.write s.2.1 (ev code)).item = _
    rw [List.range_succ, List.map_append, map_range_write, List.map_singleton,
      Table.write_item_self, List.map_singleton]
  · cases rest with
    | nil =>
        -- Every code so far is known: the entry looked at is the one written.
        rw [List.append_nil] at hseen
        have hlast : s.2.2 = s.2.1 := by rw [hindex, hposition, hseen]
        by_cases hcode : ev code = 0
        · refine ⟨run, [code], by rw [hseen], ?_, hrun, by simpa using hcode⟩
          rw [← hindex]
          simp [fillShutterStep, hlast, hcode]
        · refine ⟨run ++ [code], [], by rw [hseen, List.append_nil], ?_, ?_, by simp⟩
          · have hpos : 0 < ev code := Nat.pos_of_ne_zero hcode
            have hsmall : s.2.1 + 1 < 256 := by omega
            rw [List.length_append, List.length_singleton, ← hindex]
            simp [fillShutterStep, hlast, hpos, u8_of_lt hsmall]
          · intro c hc
            rcases List.mem_append.mp hc with hc | hc
            · exact hrun c hc
            · rw [List.mem_singleton.mp hc]
              exact hcode
    | cons first others =>
        -- The entry looked at is that of the first code that is not known.
        have hfirst : ev first = 0 := hrest first (by simp)
        have hlt : s.2.2 < seen.length := by
          rw [hindex, hseen, List.length_append, List.length_cons]
          omega
        have hitem : s.1.item s.2.2 = 0 := by
          rw [h.item ev seen s hlt, ← hfirst]
          congr 1
          simp [hseen, hindex]
        have hne : s.2.2 ≠ s.2.1 := by
          rw [hposition]
          exact Nat.ne_of_lt hlt
        refine ⟨run, first :: others ++ [code], by rw [hseen, List.append_assoc], ?_, hrun, ?_⟩
        · rw [← hindex]
          simp [fillShutterStep, Table.write_item_of_ne s.1 (ev code) hne, hitem]
        · intro c hc
          simp only [List.cons_append, List.head?_cons, Option.mem_def, Option.some.injEq] at hc
          rw [← hc]
          exact hfirst

theorem foldl_fillShutterStep_invariant (codes seen : List Nat) (s : Table cap × Nat × Nat)
    (hlen : (seen ++ codes).length < 256) (h : ShutterInvariant ev seen s) :
    ShutterInvariant ev (seen ++ codes) (codes.foldl (fillShutterStep ev) s) := by
  induction codes generalizing seen s with
  | nil => rwa [List.append_nil]
  | cons code rest ih =>
      have hstep := fillShutterStep_invariant ev seen s code
        (by rw [List.length_append, List.length_cons] at hlen; omega) h
      have hrest := ih (seen ++ [code]) _ (by rwa [List.append_assoc]) hstep
      rwa [List.append_assoc] at hrest

/-- The shutter loop leaves the values of the codes before the first that is not
    known. -/
theorem fillShutter_listed (t : Table cap) (codes : List Nat) (hlen : codes.length < 256) :
    (fillShutter ev t codes).listed = (codes.takeWhile (fun code => ev code ≠ 0)).map ev := by
  have h := foldl_fillShutterStep_invariant ev codes [] (t, 0, 0) hlen
    ⟨rfl, rfl, [], [], rfl, rfl, by simp, by simp⟩
  rw [List.nil_append] at h
  rcases h.leading with ⟨run, rest, hcodes, hindex, hrun, hrest⟩
  have htake : codes.takeWhile (fun code => ev code ≠ 0) = run := by
    rw [hcodes, List.takeWhile_append_of_pos (by simpa using hrun)]
    cases rest with
    | nil => simp
    | cons first others => simp [hrest first (by simp)]
  rw [htake, Table.listed]
  change (List.range (codes.foldl (fillShutterStep ev) (t, 0, 0)).2.2).map _ = _
  rw [hindex]
  apply List.ext_getElem
  · simp
  · intro k hk hk'
    have hlt : k < codes.length := by
      rw [hcodes, List.length_append]
      rw [List.length_map] at hk'
      omega
    rw [List.getElem_map, List.getElem_map, List.getElem_range]
    change (codes.foldl (fillShutterStep ev) (t, 0, 0)).1.item k = _
    rw [h.item ev codes _ hlt]
    congr 1
    rw [List.length_map] at hk'
    simp [hcodes, List.getElem_append_left hk']

end Shutter

/-- The codes an event at an offset lists, `n` of them. -/
def eventCodes (buffer : Nat → UInt8) (i n : Nat) : List Nat :=
  (List.range n).map fun x => le32 buffer (i + 20 + 4 * x)

/-- The value of a code of a listed property. -/
def Camera.evOf (c : Camera) (item : Nat) : Nat → Nat :=
  if item = eosDpcIso then isoEv c.protocol.propertyOffset
  else if item = eosDpcShutter then shutterEv c.protocol.propertyOffset
  else apertureEv c.protocol.propertyOffset

/-- The values the table of a listed property lists. -/
def Camera.listedValues (c : Camera) (item : Nat) : List Nat :=
  if item = eosDpcIso then c.isoAvail.listed
  else if item = eosDpcShutter then c.shutterAvail.listed
  else c.apertureAvail.listed

/-- The size of the array of a listed property. -/
def listCapacity (item : Nat) : Nat :=
  if item = eosDpcIso then isoCountMax
  else if item = eosDpcShutter then shutterCountMax
  else apertureCountMax

/-- A well-formed event that lists `n` values of a property: it has its five
    words and the values after them, all in the buffer. -/
structure ListEvent (d : Driver) (i item n : Nat) : Prop where
  type : le32 d.buffer (i + 4) = eosEcPropertyValues
  property : le32 d.buffer (i + 8) = item
  listed : IsListed item
  size : le32 d.buffer i = 20 + 4 * n
  inside : i + (20 + 4 * n) ≤ d.bytesReceived

/-- The condition under which a list is read right. For ISO and aperture, no
    code above 255 ends in the byte of a known one. For the shutter, the known
    codes of the list are what the codes before the first unknown one look
    like. -/
def InOrder (ev : Nat → Nat) (item : Nat) (codes : List Nat) : Prop :=
  if item = eosDpcShutter then
    (codes.map (· % 256)).takeWhile (fun code => ev code ≠ 0) = codes.filter (fun code => ev code ≠ 0)
  else ∀ code ∈ codes, 256 ≤ code → ev (code % 256) = 0

instance (ev : Nat → Nat) (item : Nat) (codes : List Nat) : Decidable (InOrder ev item codes) :=
  inferInstanceAs (Decidable (if item = eosDpcShutter then _ else _))

theorem readEvery_eq (buffer : Nat → UInt8) (n i : Nat) :
    readEvery buffer n i = (List.range n).map fun x => (buffer (i + 4 * x)).toNat := by
  induction n generalizing i with
  | zero => rfl
  | succ k ih =>
      rw [readEvery, ih, List.range_succ_eq_map, List.map_cons, List.map_map]
      congr 1
      apply List.map_congr_left
      intro x _
      simp only [Function.comp_apply]
      congr 2
      omega

/-- The bytes read are the low bytes of the codes listed. -/
theorem readEvery_eventCodes (buffer : Nat → UInt8) (i n : Nat) :
    readEvery buffer n (i + 20) = (eventCodes buffer i n).map (· % 256) := by
  rw [readEvery_eq, eventCodes, List.map_map]
  exact List.map_congr_left fun x _ => (le32_mod buffer (i + 20 + 4 * x)).symm

theorem filterMap_recognised (ev : Nat → Nat) (codes : List Nat) :
    codes.filterMap (recognised ev) = (codes.filter (fun code => ev code ≠ 0)).map ev := by
  induction codes with
  | nil => rfl
  | cons code rest ih =>
      by_cases hcode : ev code = 0
      · simp [recognised, hcode, ih]
      · simp [recognised, hcode, ih]

/-- Dropping all but the low byte loses no known code. -/
theorem length_filterMap_lowByte (ev : Nat → Nat) (hev : ∀ code, 256 ≤ code → ev code = 0)
    (codes : List Nat) : (codes.filterMap (recognised ev)).length
      ≤ ((codes.map (· % 256)).filterMap (recognised ev)).length := by
  induction codes with
  | nil => exact Nat.le_refl 0
  | cons code rest ih =>
      rw [List.map_cons, List.filterMap_cons, List.filterMap_cons]
      by_cases hlarge : 256 ≤ code
      · have hnone : recognised ev code = none := if_pos (hev code hlarge)
        rw [hnone]
        cases recognised ev (code % 256) with
        | none => exact ih
        | some v => exact Nat.le_succ_of_le ih
      · rw [Nat.mod_eq_of_lt (Nat.lt_of_not_le hlarge)]
        cases recognised ev code with
        | none => exact ih
        | some v => exact Nat.succ_le_succ ih

/-- It adds none exactly when no large code looks like a known one. -/
theorem filterMap_lowByte_iff (ev : Nat → Nat) (hev : ∀ code, 256 ≤ code → ev code = 0)
    (codes : List Nat) :
    (codes.map (· % 256)).filterMap (recognised ev) = codes.filterMap (recognised ev) ↔
      ∀ code ∈ codes, 256 ≤ code → ev (code % 256) = 0 := by
  induction codes with
  | nil => simp
  | cons code rest ih =>
      rw [List.map_cons, List.filterMap_cons, List.filterMap_cons, List.forall_mem_cons, ← ih]
      by_cases hlarge : 256 ≤ code
      · have hnone : recognised ev code = none := if_pos (hev code hlarge)
        rw [hnone]
        by_cases hlow : ev (code % 256) = 0
        · have hlow' : recognised ev (code % 256) = none := if_pos hlow
          rw [hlow']
          exact ⟨fun h => ⟨fun _ => hlow, h⟩, fun h => h.2⟩
        · have hlow' : recognised ev (code % 256) = some (ev (code % 256)) := if_neg hlow
          rw [hlow']
          refine iff_of_false (fun h => ?_) (fun h => hlow (h.1 hlarge))
          -- The list read is longer than the list of known codes.
          have hlen := congrArg List.length h
          have hle := length_filterMap_lowByte ev hev rest
          simp only [List.length_cons] at hlen
          omega
      · rw [Nat.mod_eq_of_lt (Nat.lt_of_not_le hlarge)]
        refine Iff.trans ?_ (iff_and_self.mpr fun _ h => absurd h hlarge)
        cases recognised ev code with
        | none => exact Iff.rfl
        | some v => simp only [List.cons.injEq, true_and]

/-- Known shutter codes are told apart by their values. -/
theorem map_shutterEv_inj (codes codes' : List Nat)
    (h : ∀ code ∈ codes, shutterEv .eos code ≠ 0) (h' : ∀ code ∈ codes', shutterEv .eos code ≠ 0) :
    codes.map (shutterEv .eos) = codes'.map (shutterEv .eos) ↔ codes = codes' := by
  refine ⟨fun heq => ?_, fun heq => by rw [heq]⟩
  have hback : ∀ l : List Nat, (∀ code ∈ l, shutterEv .eos code ≠ 0) →
      (l.map (shutterEv .eos)).map (shutterEvPTP .eos) = l := by
    intro l hl
    rw [List.map_map]
    calc l.map (shutterEvPTP .eos ∘ shutterEv .eos)
        = l.map id := List.map_congr_left fun code hcode => shutterEvPTP_shutterEv (hl code hcode)
      _ = l := List.map_id l
  rw [← hback codes h, heq, hback codes' h']

/-- The loops of the source, on the bytes they read: the tables afterwards. -/
theorem listedValues_applyValues (c : Camera) (item : Nat) (codes : List Nat)
    (hlisted : IsListed item) (hlen : codes.length < 256) :
    (c.applyValues item codes).listedValues item
      = if item = eosDpcShutter then
          (codes.takeWhile (fun code => c.evOf item code ≠ 0)).map (c.evOf item)
        else codes.filterMap (recognised (c.evOf item)) := by
  rcases hlisted with rfl | rfl | rfl
  · have h := fillCompact_listed (isoEv c.protocol.propertyOffset) c.isoAvail codes hlen
    simpa [Camera.applyValues, Camera.listedValues, Camera.evOf, eosDpcIso, eosDpcShutter] using h
  · have h := fillShutter_listed (shutterEv c.protocol.propertyOffset) c.shutterAvail codes hlen
    simpa [Camera.applyValues, Camera.listedValues, Camera.evOf, eosDpcIso, eosDpcShutter] using h
  · have h := fillCompact_listed (apertureEv c.protocol.propertyOffset) c.apertureAvail codes hlen
    simpa [Camera.applyValues, Camera.listedValues, Camera.evOf, eosDpcIso, eosDpcShutter,
      eosDpcAperture] using h

/-- The table of a property, after the values an event lists, is the list of the
    known ones exactly when the list is in order. -/
theorem listedValues_iff (c : Camera) (item : Nat) (codes : List Nat) (hlisted : IsListed item)
    (hoff : c.protocol.propertyOffset = .eos) (hlen : codes.length < 256) :
    (c.applyValues item (codes.map (· % 256))).listedValues item
        = codes.filterMap (recognised (c.evOf item)) ↔ InOrder (c.evOf item) item codes := by
  rw [listedValues_applyValues c item _ hlisted (by rw [List.length_map]; exact hlen), InOrder]
  by_cases hshutter : item = eosDpcShutter
  · rw [if_pos hshutter, if_pos hshutter, filterMap_recognised]
    have hev : c.evOf item = shutterEv .eos := by
      subst hshutter
      simp [Camera.evOf, hoff, eosDpcIso, eosDpcShutter]
    rw [hev]
    refine map_shutterEv_inj _ _ ?_ ?_
    · intro code hcode
      simpa using List.mem_takeWhile_imp hcode
    · intro code hcode
      simpa using (List.mem_filter.mp hcode).2
  · rw [if_neg hshutter, if_neg hshutter]
    refine filterMap_lowByte_iff (c.evOf item) ?_ codes
    intro code hcode
    unfold Camera.evOf
    rw [hoff, if_neg hshutter]
    split
    · exact isoEv_eos_eq_zero hcode
    · exact apertureEv_eos_eq_zero hcode

/-- The turn that applies an event listing values. -/
theorem step_listEvent (w : Walk) (i item n : Nat) (hphase : w.frame.phase = .events i)
    (hreceived : w.frame.driver.bytesReceived ≤ bufferSize)
    (hevent : ListEvent w.frame.driver i item n) :
    ∃ w', w.step = .ok w' ∧ w'.camera = w.camera.applyValues item
      ((eventCodes w.frame.driver.buffer i n).map (· % 256)) := by
  have hinside := hevent.inside
  have hsize := hevent.size
  have hsum : u32 (20 + 4 * n + i) = 20 + 4 * n + i := by
    apply u32_of_lt
    unfold bufferSize at hreceived
    omega
  have hcount : valueCount (20 + 4 * n) = n := by
    rw [valueCount_of_le (by unfold bufferSize at hreceived; omega) (by omega)]
    omega
  have hturn : ∃ f top, w.frame.turn = ⟨.ok f, top, some (.applied (w.frame.driver.position i)
      (.values item ((eventCodes w.frame.driver.buffer i n).map (· % 256))))⟩ := by
    rw [Frame.turn, hphase]
    simp only [Frame.eventsTurn, hsize, hsum]
    rw [if_neg (by omega), if_neg (by unfold bufferSize at *; omega), if_neg (by omega),
      if_neg (by omega)]
    simp only [readChange, hevent.type, hevent.property, if_pos hevent.listed, hcount,
      readEvery_eventCodes]
    exact ⟨_, _, rfl⟩
  rcases hturn with ⟨f, top, hturn⟩
  exact ⟨_, by rw [Walk.step, hturn], rfl⟩

/-- For every well-formed list of a property that fits its array, the table
    afterwards is the list of the known codes' values exactly when the list is
    in order. -/
theorem valueList_iff (w : Walk) (i item n : Nat) (hphase : w.frame.phase = .events i)
    (hprotocol : w.camera.protocol = .eos)
    (hreceived : w.frame.driver.bytesReceived ≤ bufferSize)
    (hevent : ListEvent w.frame.driver i item n) (hfits : n ≤ listCapacity item) :
    ∃ w', w.step = .ok w' ∧
      (w'.camera.listedValues item
          = (eventCodes w.frame.driver.buffer i n).filterMap (recognised (w.camera.evOf item)) ↔
        InOrder (w.camera.evOf item) item (eventCodes w.frame.driver.buffer i n)) := by
  have hlen : (eventCodes w.frame.driver.buffer i n).length < 256 := by
    rw [eventCodes, List.length_map, List.length_range]
    have hcap : listCapacity item ≤ 64 := by
      unfold listCapacity
      split
      · decide
      · split
        · decide
        · decide
    omega
  rcases step_listEvent w i item n hphase hreceived hevent with ⟨w', hstep, hcamera⟩
  refine ⟨w', hstep, ?_⟩
  rw [hcamera]
  exact listedValues_iff w.camera item _ hevent.listed (by rw [hprotocol]; rfl) hlen

/-- An event that lists three shutter codes, the parser having read it into the
    buffer. -/
def shutterListWalk (a b c : UInt8) : Walk where
  frame :=
    { phase := .events 0
      ret := .ok
      driver := { Driver.idle [] with
        bytesReceived := 32
        bytesTotal := 32
        buffer := bytes [32, 0, 0, 0, 0x8A, 0xC1, 0, 0, 0x02, 0xD1, 0, 0, 3, 0, 0, 0, 3, 0, 0, 0,
          a, 0, 0, 0, b, 0, 0, 0, c, 0, 0, 0] } }
  camera := Camera.fresh .eos
  top := 0
  log := []

/-- A list of known codes is read right. -/
theorem valueList_iff_known : ∃ w', (shutterListWalk 0x10 0x13 0x15).step = .ok w' ∧
    w'.camera.listedValues eosDpcShutter = [28, 29, 30] := by
  rcases valueList_iff (shutterListWalk 0x10 0x13 0x15) 0 eosDpcShutter 3 rfl rfl (by decide)
    ⟨by decide, by decide, by decide, by decide, by decide⟩ (by decide) with ⟨w', hstep, hiff⟩
  exact ⟨w', hstep, hiff.mpr (by decide)⟩

/-- A known code after an unknown one is not counted. -/
theorem shutterList_unknown_first :
    ListEvent (shutterListWalk 0x10 0x11 0x13).frame.driver 0 eosDpcShutter 3 ∧
    ∃ w', (shutterListWalk 0x10 0x11 0x13).step = .ok w' ∧
      w'.camera.shutterAvail.listed = [28] ∧
      (eventCodes (shutterListWalk 0x10 0x11 0x13).frame.driver.buffer 0 3).filterMap
        (recognised (shutterEv .eos)) = [28, 29] :=
  ⟨⟨by decide, by decide, by decide, by decide, by decide⟩, _, rfl, by decide, by decide⟩

end Ptp

end TimelapsePlus
