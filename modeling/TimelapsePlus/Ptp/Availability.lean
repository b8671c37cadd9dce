import TimelapsePlus.Lib.Run
import TimelapsePlus.Ptp.EosLists
import TimelapsePlus.Ptp.Session

/-!
# Availability Tables

When the three tables of available values stay within their arrays: the counts
no larger than the arrays, and no store outside. Five loops fill the tables,
and every one of them takes its length from the camera.

The exact condition is on what the camera lists. A loop that writes the next
value over an unknown one goes outside when the known codes before the last
code of the list fill the array; the Canon shutter loop when the list is longer
than the array; and the Nikon loops, for which the stores have a limit and the
count none, when the count byte is larger than the array. The Sony shutter loop
stores a fixed list that fits.

## Main definitions

* `Table.InBounds`, `Camera.InBounds`: The tables are within their arrays.
* `known`: How many codes of a list the code tables know.
* `ListFits`: A list fits the array of its property.
* `Session.Fits`: What the camera lists in a step fits.

## Theorems

* `fillCompact_inBounds_iff`, `fillShutter_inBounds_iff`,
  `fillUpTo_inBounds_iff`: When a loop keeps its table within the array.
* `next_inBounds_iff`: When a step does.
* `run_inBounds`: A run whose steps all fit does.
* `nikon_isoCount_39`: One whose step does not.
-/

namespace TimelapsePlus

namespace Ptp

open Word Usb

/-- A table is within its array: its count, and every store that was made. -/
structure Table.InBounds {cap : Nat} (t : Table cap) : Prop where
  count : t.count ≤ cap
  inside : t.escaped = false

structure Camera.InBounds (c : Camera) : Prop where
  iso : c.isoAvail.InBounds
  shutter : c.shutterAvail.InBounds
  aperture : c.apertureAvail.InBounds

/-- How many codes of a list the code tables know. -/
def known (ev : Nat → Nat) (codes : List Nat) : Nat := (codes.filterMap (recognised ev)).length

section Known

variable (ev : Nat → Nat)

theorem known_concat (codes : List Nat) (code : Nat) :
    known ev (codes ++ [code]) = known ev codes + if ev code = 0 then 0 else 1 := by
  rw [known, known, List.filterMap_append, List.length_append]
  by_cases h : ev code = 0
  · simp [recognised, h]
  · simp [recognised, h]

/-- The last code adds at most one. -/
theorem known_dropLast (codes : List Nat) :
    known ev codes.dropLast ≤ known ev codes ∧ known ev codes ≤ known ev codes.dropLast + 1 := by
  induction codes using List.reverseRecOn with
  | nil => exact ⟨Nat.le_refl _, Nat.le_succ _⟩
  | append_singleton codes code _ =>
      rw [List.dropLast_concat, known_concat]
      split
      · omega
      · omega

variable {cap : Nat}

/-- The index is the number of known codes, as long as it is no larger than an
    array of fewer than 256 elements. -/
theorem foldl_fillCompactStep_index (t : Table cap) (codes : List Nat) (hcap : cap < 256)
    (h : known ev codes ≤ cap) :
    (codes.foldl (fillCompactStep ev) (t, 0)).2 = known ev codes := by
  induction codes using List.reverseRecOn with
  | nil => rfl
  | append_singleton codes code ih =>
      rw [known_concat] at h ⊢
      rw [List.foldl_concat]
      have hindex := ih (by omega)
      simp only [fillCompactStep, Table.write_item_self, hindex]
      by_cases hcode : ev code = 0
      · rw [if_pos hcode, if_neg (by omega)]
        rfl
      · rw [if_neg hcode] at h ⊢
        rw [if_pos (Nat.pos_of_ne_zero hcode)]
        exact u8_of_lt (by omega)

/-- The loops that drop unknown codes stay inside exactly when the known codes
    before the last code leave room. -/
theorem foldl_fillCompactStep_escaped (t : Table cap) (codes : List Nat) (hpos : 0 < cap)
    (hcap : cap < 256) :
    (codes.foldl (fillCompactStep ev) (t, 0)).1.escaped = false ↔
      t.escaped = false ∧ known ev codes.dropLast < cap := by
  induction codes using List.reverseRecOn with
  | nil => exact ⟨fun h => ⟨h, hpos⟩, fun h => h.1⟩
  | append_singleton codes code ih =>
      rw [List.foldl_concat, List.dropLast_concat]
      change ((codes.foldl (fillCompactStep ev) (t, 0)).1.write _ _).escaped = false ↔ _
      rw [Table.write_escaped, ih, and_assoc]
      refine and_congr_right fun _ => ?_
      have hlast := known_dropLast ev codes
      constructor
      · intro ⟨hroom, hindex⟩
        rwa [foldl_fillCompactStep_index ev t codes hcap (by omega)] at hindex
      · intro hroom
        rw [foldl_fillCompactStep_index ev t codes hcap (by omega)]
        exact ⟨by omega, hroom⟩

theorem fillCompact_inBounds_iff (t : Table cap) (codes : List Nat) (hpos : 0 < cap)
    (hcap : cap < 256) (ht : t.InBounds) :
    (fillCompact ev t codes).InBounds ↔ known ev codes.dropLast < cap := by
  have hescaped := foldl_fillCompactStep_escaped ev t codes hpos hcap
  constructor
  · intro h
    exact (hescaped.mp h.inside).2
  · intro h
    refine ⟨?_, hescaped.mpr ⟨ht.inside, h⟩⟩
    have hlast := known_dropLast ev codes
    have hindex := foldl_fillCompactStep_index ev t codes hcap (by omega)
    change (codes.foldl (fillCompactStep ev) (t, 0)).2 ≤ cap
    omega

/-- The shutter loop stands at the length of what it has read, and its count is
    no more. -/
theorem foldl_fillShutterStep_position (t : Table cap) (codes : List Nat) :
    (codes.foldl (fillShutterStep ev) (t, 0, 0)).2.1 = codes.length ∧
      (codes.foldl (fillShutterStep ev) (t, 0, 0)).2.2 ≤ codes.length := by
  induction codes using List.reverseRecOn with
  | nil => exact ⟨rfl, Nat.le_refl _⟩
  | append_singleton codes code ih =>
      rw [List.foldl_concat, List.length_append, List.length_singleton]
      refine ⟨congrArg (· + 1) ih.1, ?_⟩
      simp only [fillShutterStep]
      split
      · have hmod : u8 ((codes.foldl (fillShutterStep ev) (t, 0, 0)).2.2 + 1)
            ≤ (codes.foldl (fillShutterStep ev) (t, 0, 0)).2.2 + 1 := Nat.mod_le _ _
        omega
      · omega

theorem foldl_fillShutterStep_escaped (t : Table cap) (codes : List Nat) :
    (codes.foldl (fillShutterStep ev) (t, 0, 0)).1.escaped = false ↔
      t.escaped = false ∧ codes.length ≤ cap := by
  induction codes using List.reverseRecOn with
  | nil => exact ⟨fun h => ⟨h, Nat.zero_le _⟩, fun h => h.1⟩
  | append_singleton codes code ih =>
      rw [List.foldl_concat, List.length_append, List.length_singleton]
      change ((codes.foldl (fillShutterStep ev) (t, 0, 0)).1.write _ _).escaped = false ↔ _
      rw [Table.write_escaped, ih, (foldl_fillShutterStep_position ev t codes).1, and_assoc]
      refine and_congr_right fun _ => ?_
      omega

theorem fillShutter_inBounds_iff (t : Table cap) (codes : List Nat) (ht : t.InBounds) :
    (fillShutter ev t codes).InBounds ↔ codes.length ≤ cap := by
  have hescaped := foldl_fillShutterStep_escaped ev t codes
  constructor
  · intro h
    exact (hescaped.mp h.inside).2
  · intro h
    exact ⟨Nat.le_trans (foldl_fillShutterStep_position ev t codes).2 h,
      hescaped.mpr ⟨ht.inside, h⟩⟩

theorem fillUpTo_inBounds_iff (limit : Nat) (t : Table cap) (count : Nat) (value : Nat → Nat)
    (ht : t.InBounds) : (fillUpTo limit t count value).InBounds ↔ count ≤ cap := by
  constructor
  · intro h
    rw [← fillUpTo_count limit t count value]
    exact h.count
  · intro h
    refine ⟨by rw [fillUpTo_count]; exact h, ?_⟩
    rw [fillUpTo_escaped]
    exact ⟨ht.inside, by omega⟩

theorem appendAll_inBounds (t : Table cap) (values : List Nat) (hcap : cap < 256)
    (h : t.count + values.length ≤ cap) (ht : t.escaped = false) :
    (appendAll t values).InBounds where
  count := by
    rw [appendAll_count t values (by omega)]
    exact h
  inside := by
    rw [appendAll_escaped t values (by omega) h]
    exact ht

end Known

/-- A list fits the array of its property. -/
def ListFits (c : Camera) (item : Nat) (codes : List Nat) : Prop :=
  if item = eosDpcIso then known (isoEv c.protocol.propertyOffset) codes.dropLast < isoCountMax
  else if item = eosDpcShutter then codes.length ≤ shutterCountMax
  else if item = eosDpcAperture then
    known (apertureEv c.protocol.propertyOffset) codes.dropLast < apertureCountMax
  else True

theorem applyValues_inBounds_iff (c : Camera) (item : Nat) (codes : List Nat) (hc : c.InBounds) :
    (c.applyValues item codes).InBounds ↔ ListFits c item codes := by
  unfold Camera.applyValues ListFits
  by_cases hiso : item = eosDpcIso
  · simp only [if_pos hiso]
    rw [← fillCompact_inBounds_iff _ c.isoAvail codes (by decide) (by decide) hc.iso]
    exact ⟨fun h => h.iso, fun h => ⟨h, hc.shutter, hc.aperture⟩⟩
  simp only [if_neg hiso]
  by_cases hshutter : item = eosDpcShutter
  · simp only [if_pos hshutter]
    rw [← fillShutter_inBounds_iff (shutterEv c.protocol.propertyOffset) c.shutterAvail codes
      hc.shutter]
    exact ⟨fun h => h.shutter, fun h => ⟨hc.iso, h, hc.aperture⟩⟩
  simp only [if_neg hshutter]
  by_cases haperture : item = eosDpcAperture
  · simp only [if_pos haperture]
    rw [← fillCompact_inBounds_iff _ c.apertureAvail codes (by decide) (by decide) hc.aperture]
    exact ⟨fun h => h.aperture, fun h => ⟨hc.iso, hc.shutter, h⟩⟩
  · simp only [if_neg haperture]
    exact iff_of_true hc trivial

/-- Sony properties: only the ISO's list is stored. -/
def SonyProperty.Fits (p : SonyProperty) (c : Camera) : Prop :=
  p.code = sonyDpcIso →
    known (isoEv c.protocol.propertyOffset) p.isoCodes.dropLast < isoCountMax

theorem applySony_inBounds_iff (c : Camera) (p : SonyProperty) (hc : c.InBounds) :
    (c.applySony p).InBounds ↔ p.Fits c := by
  unfold Camera.applySony SonyProperty.Fits
  by_cases hiso : p.code = sonyDpcIso
  · simp only [hiso, if_true, forall_const]
    rw [← fillCompact_inBounds_iff _ c.isoAvail p.isoCodes (by decide) (by decide) hc.iso]
    exact ⟨fun h => h.iso, fun h => ⟨h, hc.shutter, hc.aperture⟩⟩
  simp only [hiso, if_false, false_implies, iff_true]
  by_cases hshutter : p.code = sonyDpcShutter
  · simp only [if_pos hshutter]
    -- All the shutter codes there are fit.
    have hlen : ((ptpShutterList.drop 1).map PropertyDescription.ev).length = 56 := by
      rw [List.length_map]
      decide
    refine ⟨hc.iso, appendAll_inBounds _ _ (by decide) ?_ hc.shutter.inside, hc.aperture⟩
    rw [hlen]
    exact (by decide : 0 + 56 ≤ shutterCountMax)
  · simp only [if_neg hshutter]
    exact hc

/-- The property a turn of the Sony loop reads. -/
def SonyFrame.property? (f : SonyFrame) : Option SonyProperty :=
  if f.driver.bytesReceived ≤ f.i then none
  else if f.ret = .dataRemaining ∧ bufferSize / 2 < f.i then none
  else match sonyProperty f.driver.buffer f.i with
    | .error _ => none
    | .ok (p, _) => some p

/-- The description of a property in the buffer fits its array: its count
    byte. -/
def NikonProperty.Fits (p : NikonProperty) (d : Driver) : Prop :=
  match p with
  | .iso => 10 < d.bytesReceived ∧ (d.buffer 2).toNat = 4 → (d.buffer 10).toNat ≤ isoCountMax
  | .aperture =>
      10 < d.bytesReceived ∧ (d.buffer 2).toNat = 4 → (d.buffer 10).toNat ≤ apertureCountMax
  | .shutter =>
      14 < d.bytesReceived ∧ (d.buffer 2).toNat = 6 → (d.buffer 14).toNat ≤ shutterCountMax

namespace Session

/-- What the camera lists in a step fits the arrays: the count of a description,
    the values of an event, or those of a property. -/
def Fits (s : Session) (l : Label) : Prop :=
  match s.task, l with
  | .describe p, .proceed => p.Fits s.driver
  | .eos phase ret, .proceed => ∀ pos item codes,
      (Frame.turn ⟨phase, ret, s.driver⟩).output = some (.applied pos (.values item codes)) →
        ListFits s.camera item codes
  | .sony i ret, .proceed => ∀ p, (SonyFrame.mk i ret s.driver).property? = some p →
      p.Fits s.camera
  | _, _ => True

theorem describe_inBounds_iff (s : Session) (p : NikonProperty) (hs : s.camera.InBounds) :
    (s.describe p).camera.InBounds ↔ p.Fits s.driver := by
  cases p with
  | iso =>
      simp only [describe, Camera.describeIso, NikonProperty.Fits]
      split
      · rename_i hlist
        simp only [hlist, and_self, forall_const]
        rw [← fillUpTo_inBounds_iff 32 s.camera.isoAvail _ _ hs.iso]
        exact ⟨fun h => h.iso, fun h => ⟨h, hs.shutter, hs.aperture⟩⟩
      · rename_i hlist
        exact iff_of_true hs fun h => absurd h hlist
  | aperture =>
      simp only [describe, Camera.describeAperture, NikonProperty.Fits]
      split
      · rename_i hlist
        simp only [hlist, and_self, forall_const]
        rw [← fillUpTo_inBounds_iff 32 s.camera.apertureAvail _ _ hs.aperture]
        exact ⟨fun h => h.aperture, fun h => ⟨hs.iso, hs.shutter, h⟩⟩
      · rename_i hlist
        exact iff_of_true hs fun h => absurd h hlist
  | shutter =>
      simp only [describe, Camera.describeShutter, NikonProperty.Fits]
      split
      · rename_i hlist
        simp only [hlist, and_self, forall_const]
        rw [← fillUpTo_inBounds_iff 64 s.camera.shutterAvail _ _ hs.shutter]
        exact ⟨fun h => h.shutter, fun h => ⟨hs.iso, h, hs.aperture⟩⟩
      · rename_i hlist
        exact iff_of_true hs fun h => absurd h hlist

theorem sonyStep_inBounds_iff (s : Session) (i : Nat) (ret : Ret) (hs : s.camera.InBounds) :
    (s.sonyStep i ret).camera.InBounds ↔
      ∀ p, (SonyFrame.mk i ret s.driver).property? = some p → p.Fits s.camera := by
  simp only [sonyStep, SonyFrame.turn, SonyFrame.property?]
  by_cases hdone : s.driver.bytesReceived ≤ i
  · simp only [if_pos hdone, reduceCtorEq, false_implies, implies_true, iff_true]
    exact hs
  simp only [if_neg hdone]
  by_cases hfetch : ret = .dataRemaining ∧ bufferSize / 2 < i
  · simp only [if_pos hfetch, reduceCtorEq, false_implies, implies_true, iff_true]
    by_cases herr : (s.driver.fetchData (bufferSize - i)).1 = .error
    · simp only [if_pos herr]
      exact hs
    · simp only [if_neg herr]
      exact hs
  simp only [if_neg hfetch]
  cases hp : sonyProperty s.driver.buffer i with
  | error err =>
      simp only [reduceCtorEq, false_implies, implies_true, iff_true]
      exact hs
  | ok r =>
      simp only [Option.some.injEq, forall_eq']
      exact applySony_inBounds_iff s.camera r.1 hs

/-- A turn that returns has applied nothing. -/
theorem turn_output_of_error (f : Frame) (r : Nat × Driver) (h : f.turn.next = .error r) :
    f.turn.output = none := by
  unfold Frame.turn Frame.eventsTurn Frame.fetch at h ⊢
  grind

/-- What an event changes leaves the tables alone, unless it lists values. -/
theorem apply_inBounds_iff (c : Camera) (o : Option Output) (hc : c.InBounds) :
    (c.apply o).InBounds ↔
      ∀ pos item codes, o = some (.applied pos (.values item codes)) → ListFits c item codes := by
  have hkeep : ∀ item value, (c.applyProperty item value).InBounds := fun item value => by
    unfold Camera.applyProperty
    repeat' split
    all_goals exact ⟨hc.iso, hc.shutter, hc.aperture⟩
  rcases o with _ | ⟨pos, change⟩ | _ | _
  · simpa [Camera.apply] using hc
  · cases change with
    | property item value => simpa [Camera.apply, Camera.applyChange] using hkeep item value
    | values item codes =>
        simpa [Camera.apply, Camera.applyChange] using applyValues_inBounds_iff c item codes hc
    | object handle =>
        simpa [Camera.apply, Camera.applyChange] using ⟨hc.iso, hc.shutter, hc.aperture⟩
    | other type => simpa [Camera.apply, Camera.applyChange] using hc
  · simpa [Camera.apply] using hc
  · simpa [Camera.apply] using hc

theorem eosStep_inBounds_iff (s : Session) (phase : Phase) (ret : Ret) (hs : s.camera.InBounds) :
    (s.eosStep phase ret).camera.InBounds ↔ ∀ pos item codes,
      (Frame.turn ⟨phase, ret, s.driver⟩).output = some (.applied pos (.values item codes)) →
        ListFits s.camera item codes := by
  rw [← apply_inBounds_iff s.camera _ hs]
  simp only [eosStep]
  cases hn : (Frame.turn ⟨phase, ret, s.driver⟩).next with
  | error r =>
      rw [turn_output_of_error _ r hn]
      exact Iff.rfl
  | ok f => exact Iff.rfl


theorem foldl_applyPtpEvent_inBounds (events : List (Nat × Nat)) (c : Camera) (hc : c.InBounds) :
    (events.foldl Camera.applyPtpEvent c).InBounds := by
  induction events generalizing c with
  | nil => exact hc
  | cons event events ih =>
      refine ih _ ?_
      unfold Camera.applyPtpEvent
      split
      · exact ⟨hc.iso, hc.shutter, hc.aperture⟩
      · split
        · exact ⟨hc.iso, hc.shutter, hc.aperture⟩
        · exact hc

theorem nikonUpdate_inBounds (s : Session) (hs : s.camera.InBounds) :
    s.nikonUpdate.camera.InBounds := by
  unfold nikonUpdate
  split
  · exact ⟨hs.iso, hs.shutter, hs.aperture⟩
  · exact hs

theorem nikonPoll_inBounds (s : Session) (event : List UInt8) (hs : s.camera.InBounds) :
    (s.nikonPoll event).camera.InBounds := by
  have hcount : (if 10 < s.count then { s with camera.needUpdate := true, count := 0 }
      else { s with count := u8 (s.count + 1) }).camera.InBounds := by
    split
    · exact ⟨hs.iso, hs.shutter, hs.aperture⟩
    · exact hs
  unfold nikonPoll
  generalize (if 10 < s.count then { s with camera.needUpdate := true, count := 0 }
    else { s with count := u8 (s.count + 1) }) = t at hcount
  simp only
  split
  · exact hcount
  · exact foldl_applyPtpEvent_inBounds [_] _ ⟨hcount.iso, hcount.shutter, hcount.aperture⟩

theorem nikonEventsStep_inBounds (s : Session) (event : List UInt8) (hs : s.camera.InBounds) :
    (s.nikonEventsStep event).session.camera.InBounds := by
  unfold nikonEventsStep
  split
  · simp only [ask]
    split
    · exact hs
    · exact nikonUpdate_inBounds _ (foldl_applyPtpEvent_inBounds _ s.camera hs)
  · exact nikonUpdate_inBounds _ (nikonPoll_inBounds s event hs)

theorem sonyReadProperties_inBounds (s : Session) (hs : s.camera.InBounds) :
    s.sonyReadProperties.session.camera.InBounds := by
  simp only [sonyReadProperties, ask]
  split
  · exact ⟨hs.iso, hs.shutter, hs.aperture⟩
  · exact ⟨hs.iso, hs.shutter, hs.aperture⟩

theorem sonyEvent_inBounds (s : Session) (event : List UInt8) (hs : s.camera.InBounds) :
    (s.sonyEvent event).camera.InBounds := by
  simp only [sonyEvent]
  split
  · exact ⟨hs.iso, hs.shutter, hs.aperture⟩
  · split
    · exact ⟨hs.iso, hs.shutter, hs.aperture⟩
    · exact hs

theorem sonyCheck_inBounds (s : Session) (event : List UInt8) (hs : s.camera.InBounds) :
    (s.sonyCheck event).session.camera.InBounds := by
  simp only [sonyCheck]
  split
  · exact sonyReadProperties_inBounds _ (sonyEvent_inBounds s event hs)
  · exact sonyEvent_inBounds s event hs

theorem nikonCheck_inBounds (s : Session) (event : List UInt8) (hs : s.camera.InBounds) :
    (s.nikonCheck event).session.camera.InBounds := by
  unfold nikonCheck
  split
  · simp only [ask]
    split
    · exact ⟨hs.iso, hs.shutter, hs.aperture⟩
    · exact ⟨hs.iso, hs.shutter, hs.aperture⟩
  · exact hs

theorem eosCheck_inBounds (s : Session) (hs : s.camera.InBounds) :
    s.eosCheck.session.camera.InBounds := by
  simp only [eosCheck, ask]
  split
  · exact hs
  · exact ⟨hs.iso, hs.shutter, hs.aperture⟩

theorem expireBusy_inBounds (s : Session) (now : Nat) (hs : s.camera.InBounds) :
    (s.expireBusy now).camera.InBounds := by
  unfold expireBusy
  repeat' split
  all_goals exact ⟨hs.iso, hs.shutter, hs.aperture⟩

theorem checkEvent_inBounds (s : Session) (now : Nat) (event : List UInt8)
    (hs : s.camera.InBounds) : (s.checkEvent now event).session.camera.InBounds := by
  have hbusy := expireBusy_inBounds s now hs
  unfold checkEvent
  split
  · exact hs
  · simp only
    split
    · exact nikonCheck_inBounds _ event hbusy
    · exact sonyCheck_inBounds _ event hbusy
    · exact eosCheck_inBounds _ hbusy
    · exact hbusy

theorem reset_inBounds {cap : Nat} (t : Table cap) (ht : t.InBounds) :
    ({ t with count := 0 } : Table cap).InBounds := ⟨Nat.zero_le _, ht.inside⟩

/-- A step keeps the tables within their arrays exactly when what the camera
    lists in it fits. -/
theorem next_inBounds_iff (s s' : Session) (l : Label) (hs : s.camera.InBounds)
    (h : s.next l = some s') : s'.camera.InBounds ↔ s.Fits l := by
  unfold next step at h
  unfold Fits
  cases htask : s.task with
  | idle =>
      rw [htask] at h
      refine iff_of_true ?_ (by cases l <;> trivial)
      cases l with
      | checkEvent now event =>
          cases h
          exact checkEvent_inBounds s now event hs
      | command opCode receive params data =>
          cases h
          exact hs
      | setFocus value =>
          cases h
          unfold setFocus ask quiet
          split
          · exact hs
          · exact hs
      | readProperties =>
          cases h
          exact sonyReadProperties_inBounds s hs
      | init protocol supports =>
          cases h
          exact ⟨reset_inBounds _ hs.iso, reset_inBounds _ hs.shutter, reset_inBounds _ hs.aperture⟩
      | close =>
          cases h
          exact ⟨reset_inBounds _ hs.iso, reset_inBounds _ hs.shutter, reset_inBounds _ hs.aperture⟩
      | enable usb =>
          cases h
          exact hs
      | proceed => exact absurd h (by simp)
  | events event =>
      rw [htask] at h
      cases l with
      | proceed =>
          cases h
          exact iff_of_true (nikonEventsStep_inBounds s event hs) trivial
      | _ => exact absurd h (by simp)
  | ask p =>
      rw [htask] at h
      cases l with
      | proceed =>
          cases h
          refine iff_of_true ?_ trivial
          simp only [askProperty, Session.ask]
          split
          · exact hs
          · exact hs
      | _ => exact absurd h (by simp)
  | describe p =>
      rw [htask] at h
      cases l with
      | proceed =>
          cases h
          exact describe_inBounds_iff s p hs
      | _ => exact absurd h (by simp)
  | eos phase ret =>
      rw [htask] at h
      cases l with
      | proceed =>
          cases h
          exact eosStep_inBounds_iff s phase ret hs
      | _ => exact absurd h (by simp)
  | sony i ret =>
      rw [htask] at h
      cases l with
      | proceed =>
          cases h
          exact sonyStep_inBounds_iff s i ret hs
      | _ => exact absurd h (by simp)

end Session

/-- In every run whose steps all fit, every session reached has its tables
    within their arrays. -/
theorem run_inBounds (s s' : Session) (hs : s.camera.InBounds)
    (h : Run Session.next Session.Fits s s') : s'.camera.InBounds :=
  h.invariant (fun s => s.camera.InBounds)
    (fun s l t hinv hfits hstep => (Session.next_inBounds_iff s t l hinv hstep).mpr hfits) hs

/-- A Nikon's description of its ISO, with this count byte and a value of 100
    for each. -/
def isoDescription (count : UInt8) : List UInt8 :=
  [0x0F, 0x50, 4, 0, 1, 100, 0, 100, 0, 2, count, 0] ++
    (List.replicate count.toNat [100, 0]).flatten

/-- A Nikon about to be asked for its ISO. -/
def isoAsked (count : UInt8) : Session where
  camera := Camera.fresh .nikon
  driver := Driver.idle [⟨noError, noError,
    [dataContainer ptpOcPropertyList (isoDescription count), okResponse]⟩]
  task := .idle
  count := 0
  busySeconds := 0

/-- The same, with the description in the buffer. -/
def isoDescribed (count : UInt8) : Session :=
  { isoAsked count with
    task := .describe .iso
    driver := { Driver.idle [] with
      bytesReceived := (isoDescription count).length
      buffer := bytes (isoDescription count) } }

/-- A list of two values fits. -/
theorem run_inBounds_two : ((isoDescribed 2).describe .iso).camera.isoAvail.count = 2 ∧
    ((isoDescribed 2).describe .iso).camera.InBounds := by
  have hfits : (isoDescribed 2).Fits .proceed := fun _ => by decide
  exact ⟨rfl, run_inBounds (isoDescribed 2) _
    ⟨⟨Nat.zero_le _, rfl⟩, ⟨Nat.zero_le _, rfl⟩, ⟨Nat.zero_le _, rfl⟩⟩
    (.tail .proceed .refl hfits rfl)⟩

/-- The count byte is taken as it is. -/
theorem nikon_isoCount_39 : ∃ s, Run Session.next (fun _ _ => True) (isoAsked 39) s ∧
    ¬ s.camera.InBounds := by
  have hsteps : (steps Session.next (isoAsked 39) [.checkEvent 0 [], .proceed, .proceed,
      .proceed]).map (fun s => s.camera.isoAvail.count) = some 39 := by decide +kernel
  rcases Option.map_eq_some_iff.mp hsteps with ⟨s, hrun, hcount⟩
  refine ⟨s, run_of_steps _ hrun, ?_⟩
  intro hbounds
  have hle := hbounds.iso.count
  rw [hcount] at hle
  exact absurd hle (by decide)

end Ptp

end TimelapsePlus
