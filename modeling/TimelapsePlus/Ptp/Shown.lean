import TimelapsePlus.Lib.Blind
import TimelapsePlus.Ptp.Setters

/-!
# What Shows of the Camera

The variables of the camera object outlive the camera. What of them shows is the
part that anything is ever decided on: of a table the values listed, of a
Canon's mode whether it is bulb, of a Nikon's mask which capture it stands for,
and nothing of the values that are only kept. What the steps of a session, the
setters and the captures leave shows no more than what they were made on did, so
that a state can be taken for another one that shows the same.

There are places where this is not so. `checkEvent` compares two static variables
with a limit, `moveFocus` looks whether the live view is on, and the list of a
Nikon's property may be longer than what is read of it. Two states that show the
same have to agree in that.

## Main definitions

* `Table.shown`, `Camera.shown`, `Session.shown`, `Setters.shown`,
  `Flags.shown`, `Control.shown`: What shows.
* `SameRest`: Two tables hold the same between a limit and a count.
* `Session.Expires`: The busy flag has been up for too long.
* `Session.Same`: What does not show makes no difference to a step.

## Theorems

* `fillCompact_shown`, `fillShutter_shown`, `appendAll_shown`, `fillUpTo_shown`:
  What is listed when a table has been filled.
* `Session.step_congr`: A step of the session.
* `Setters.set_shown`, `Setters.goOn_blind`: The setters.
* `Control.step_blind`, `Control.moveFocus_congr`: The captures.
-/

namespace TimelapsePlus

namespace Ptp

open Word Usb

namespace Table

variable {cap : Nat}

/-- What shows of a table: the values listed. -/
def shown (t : Table cap) : Table cap :=
  ⟨fun i => if i < t.count then t.item i else 0, 0, t.count, false⟩

theorem shown_eq_iff {t u : Table cap} :
    t.shown = u.shown ↔ t.count = u.count ∧ ∀ i, i < t.count → t.item i = u.item i := by
  simp only [shown, Table.mk.injEq, true_and, and_true]
  constructor
  · rintro ⟨hitem, hcount⟩
    refine ⟨hcount, fun i hi => ?_⟩
    have heq := congrFun hitem i
    simp only [if_pos hi, if_pos (hcount ▸ hi)] at heq
    exact heq
  · rintro ⟨hcount, hitem⟩
    refine ⟨funext fun i => ?_, hcount⟩
    rw [← hcount]
    split
    case isTrue hi => exact hitem i hi
    case isFalse => rfl

@[simp] theorem shown_shown (t : Table cap) : t.shown.shown = t.shown :=
  shown_eq_iff.mpr ⟨rfl, fun _ hi => if_pos hi⟩

theorem shown_listed (t : Table cap) : t.shown.listed = t.listed := by
  unfold listed
  refine List.map_congr_left fun i hi => ?_
  exact if_pos (List.mem_range.mp hi)

end Table

section Fill

variable {cap : Nat}

/-- The loops that drop unknown codes leave below `ti` what they have stored there,
    whatever the table held. -/
theorem foldl_fillCompactStep_shown (ev : Nat → Nat) (t u : Table cap) (codes : List Nat) :
    let a := codes.foldl (fillCompactStep ev) (t, 0)
    let b := codes.foldl (fillCompactStep ev) (u, 0)
    a.2 = b.2 ∧ ∀ i, i < a.2 → a.1.item i = b.1.item i := by
  induction codes using List.reverseRecOn with
  | nil => exact ⟨rfl, fun i hi => absurd hi (Nat.not_lt_zero i)⟩
  | append_singleton codes code ih =>
      simp only [List.foldl_concat]
      generalize codes.foldl (fillCompactStep ev) (t, 0) = a at ih
      generalize codes.foldl (fillCompactStep ev) (u, 0) = b at ih
      rcases a with ⟨t, k⟩
      rcases b with ⟨u, j⟩
      rcases ih with ⟨rfl, hitem⟩
      simp only [fillCompactStep, Table.write_item_self, true_and]
      intro i hi
      by_cases hk : i = k
      · rw [hk, Table.write_item_self, Table.write_item_self]
      · rw [Table.write_item_of_ne _ _ hk, Table.write_item_of_ne _ _ hk]
        refine hitem i ?_
        -- The index goes up by one at most, or back to zero.
        have hle : u8 (k + 1) ≤ k + 1 := Nat.mod_le _ _
        split at hi
        · omega
        · exact hi

theorem fillCompact_shown (ev : Nat → Nat) (t u : Table cap) (codes : List Nat) :
    (fillCompact ev t codes).shown = (fillCompact ev u codes).shown :=
  Table.shown_eq_iff.mpr (foldl_fillCompactStep_shown ev t u codes)

/-- The shutter's loop has stored whatever it counts. -/
theorem foldl_fillShutterStep_shown (ev : Nat → Nat) (t u : Table cap) (codes : List Nat) :
    let a := codes.foldl (fillShutterStep ev) (t, 0, 0)
    let b := codes.foldl (fillShutterStep ev) (u, 0, 0)
    a.2 = b.2 ∧ a.2.2 ≤ a.2.1 ∧ ∀ i, i < a.2.1 → a.1.item i = b.1.item i := by
  induction codes using List.reverseRecOn with
  | nil => exact ⟨rfl, Nat.le_refl 0, fun i hi => absurd hi (Nat.not_lt_zero i)⟩
  | append_singleton codes code ih =>
      simp only [List.foldl_concat]
      generalize codes.foldl (fillShutterStep ev) (t, 0, 0) = a at ih
      generalize codes.foldl (fillShutterStep ev) (u, 0, 0) = b at ih
      rcases a with ⟨t, x, k⟩
      rcases b with ⟨u, y, j⟩
      rcases ih with ⟨hsame, hle, hitem⟩
      simp only [Prod.mk.injEq] at hsame
      rcases hsame with ⟨rfl, rfl⟩
      simp only at hle hitem
      have hwrite : ∀ i, i < x + 1 →
          (t.write x (ev code)).item i = (u.write x (ev code)).item i := by
        intro i hi
        by_cases hx : i = x
        · rw [hx, Table.write_item_self, Table.write_item_self]
        · rw [Table.write_item_of_ne _ _ hx, Table.write_item_of_ne _ _ hx]
          exact hitem i (by omega)
      simp only [fillShutterStep, hwrite k (by omega), true_and]
      refine ⟨?_, hwrite⟩
      split
      · exact Nat.le_trans (Nat.mod_le _ _) (by omega)
      · omega

theorem fillShutter_shown (ev : Nat → Nat) (t u : Table cap) (codes : List Nat) :
    (fillShutter ev t codes).shown = (fillShutter ev u codes).shown := by
  have h := foldl_fillShutterStep_shown ev t u codes
  exact Table.shown_eq_iff.mpr ⟨congrArg Prod.snd h.1, fun i hi =>
    h.2.2 i (Nat.lt_of_lt_of_le hi h.2.1)⟩

/-- Adding values at the end of two tables that show the same. -/
theorem appendAll_shown (t u : Table cap) (values : List Nat) (h : t.shown = u.shown) :
    (appendAll t values).shown = (appendAll u values).shown := by
  induction values using List.reverseRecOn with
  | nil => exact h
  | append_singleton values v ih =>
      rw [appendAll_concat, appendAll_concat]
      rcases Table.shown_eq_iff.mp ih with ⟨hcount, hitem⟩
      refine Table.shown_eq_iff.mpr ⟨congrArg (fun n => u8 (n + 1)) hcount, fun i hi => ?_⟩
      simp only [← hcount]
      by_cases hi' : i = (appendAll t values).count
      · rw [hi', Table.write_item_self, Table.write_item_self]
      · rw [Table.write_item_of_ne _ _ hi', Table.write_item_of_ne _ _ hi']
        refine hitem i ?_
        have hle : i < (appendAll t values).count + 1 := Nat.lt_of_lt_of_le hi (Nat.mod_le _ _)
        omega

theorem foldl_write_item (t : Table cap) (value : Nat → Nat) (n i : Nat) :
    ((List.range n).foldl (fun t i => t.write i (value i)) t).item i =
      if i < n then value i else t.item i := by
  induction n with
  | zero => rfl
  | succ k ih =>
      rw [List.range_succ, List.foldl_concat]
      by_cases hk : i = k
      · rw [hk, Table.write_item_self, if_pos (Nat.lt_succ_self k)]
      · rw [Table.write_item_of_ne _ _ hk, ih]
        grind

/-- What is listed past the limit is what the table held. -/
theorem fillUpTo_item (limit : Nat) (t : Table cap) (count : Nat) (value : Nat → Nat) (i : Nat) :
    (fillUpTo limit t count value).item i = if i < min count limit then value i else t.item i :=
  foldl_write_item _ value _ i

/-- Two tables hold the same between a limit and a count. -/
def SameRest (limit count : Nat) (t u : Table cap) : Prop :=
  ∀ i, limit ≤ i → i < count → t.item i = u.item i

theorem fillUpTo_shown (limit : Nat) (t u : Table cap) (count : Nat) (value : Nat → Nat)
    (h : SameRest limit count t u) :
    (fillUpTo limit t count value).shown = (fillUpTo limit u count value).shown := by
  refine Table.shown_eq_iff.mpr ⟨?_, fun i hi => ?_⟩
  · rw [fillUpTo_count, fillUpTo_count]
  · rw [fillUpTo_count] at hi
    rw [fillUpTo_item, fillUpTo_item]
    split
    · rfl
    case isFalse hlim => exact h i (by omega) hi

end Fill

/-- Of a Canon's mode only bulb is told from the others. -/
def modeShown (mode : Nat) : Nat := if mode = 0x04 then 0x04 else 0

@[simp] theorem modeShown_modeShown (mode : Nat) :
    modeShown (modeShown mode) = modeShown mode := by
  unfold modeShown
  split <;> rfl

theorem modeShown_eq_iff {m n : Nat} :
    modeShown m = modeShown n ↔ (m = 0x04 ↔ n = 0x04) := by
  unfold modeShown
  grind

namespace Camera

/-- What shows of a camera. Nothing but `moveFocus` looks whether the live view is
    on, and nothing at all at the two that follow it. -/
def shown (c : Camera) : Camera :=
  { c with
    isoAvail := c.isoAvail.shown
    shutterAvail := c.shutterAvail.shown
    apertureAvail := c.apertureAvail.shown
    modePTP := modeShown c.modePTP
    modeLiveView := false
    recording := false
    autofocus := false }

theorem shown_shown (c : Camera) : c.shown.shown = c.shown := by
  simp only [shown, Table.shown_shown, modeShown_modeShown]

theorem blind_id : Blind shown shown fun c => c := fun c => (shown_shown c).symm

theorem needUpdate_blind (need : Bool) : Blind shown shown fun c => { c with needUpdate := need } :=
  fun c => by simp only [shown, Table.shown_shown, modeShown_modeShown]

theorem busy_blind (busy : Bool) : Blind shown shown fun c => { c with busy := busy } :=
  fun c => by simp only [shown, Table.shown_shown, modeShown_modeShown]

theorem applyProperty_blind (item value : Nat) :
    Blind shown shown fun c => c.applyProperty item value := by
  unfold applyProperty
  -- Each property goes into a field of its own, and the others into none.
  refine .ite (fun _ => Iff.rfl) ?_ (.ite (fun _ => Iff.rfl) ?_ (.ite (fun _ => Iff.rfl) ?_
    (.ite (fun _ => Iff.rfl) ?_ (.ite (fun _ => Iff.rfl) ?_ (.ite (fun _ => Iff.rfl) ?_
      (.ite (fun _ => Iff.rfl) ?_ (.ite (fun _ => Iff.rfl) ?_
        (.ite (fun _ => Iff.rfl) ?_ blind_id))))))))
  all_goals
    intro c
    simp only [shown, Table.shown_shown, modeShown_modeShown]

section Lists

variable {c d : Camera} {supports supports' : Supports} (v : Nat)

/-- Cameras that show the same and are given lists that do. -/
theorem isoAvail_congr {t u : Table isoCountMax} (h : c.shown = d.shown)
    (hsupports : supports = supports') (htable : t.shown = u.shown) :
    ({ c with isoAvail := t, supports := supports, isoPTP := v } : Camera).shown =
      ({ d with isoAvail := u, supports := supports', isoPTP := v } : Camera).shown := by
  rw [hsupports]
  exact (congrArg (fun t => ({ c.shown with
    isoAvail := t, supports := supports', isoPTP := v } : Camera)) htable).trans
      (congrArg (fun c => ({ c with
        isoAvail := u.shown, supports := supports', isoPTP := v } : Camera)) h)

theorem shutterAvail_congr {t u : Table shutterCountMax} (h : c.shown = d.shown)
    (hsupports : supports = supports') (htable : t.shown = u.shown) :
    ({ c with shutterAvail := t, supports := supports, shutterPTP := v } : Camera).shown =
      ({ d with shutterAvail := u, supports := supports', shutterPTP := v } : Camera).shown := by
  rw [hsupports]
  exact (congrArg (fun t => ({ c.shown with
    shutterAvail := t, supports := supports', shutterPTP := v } : Camera)) htable).trans
      (congrArg (fun c => ({ c with
        shutterAvail := u.shown, supports := supports', shutterPTP := v } : Camera)) h)

theorem apertureAvail_congr {t u : Table apertureCountMax} (h : c.shown = d.shown)
    (hsupports : supports = supports') (htable : t.shown = u.shown) :
    ({ c with apertureAvail := t, supports := supports, aperturePTP := v } : Camera).shown =
      ({ d with apertureAvail := u, supports := supports', aperturePTP := v } : Camera).shown := by
  rw [hsupports]
  exact (congrArg (fun t => ({ c.shown with
    apertureAvail := t, supports := supports', aperturePTP := v } : Camera)) htable).trans
      (congrArg (fun c => ({ c with
        apertureAvail := u.shown, supports := supports', aperturePTP := v } : Camera)) h)

end Lists

theorem applyValues_blind (item : Nat) (codes : List Nat) :
    Blind shown shown fun c => c.applyValues item codes := by
  refine .ite (fun _ => Iff.rfl) (fun c => ?_)
    (.ite (fun _ => Iff.rfl) (fun c => ?_) (.ite (fun _ => Iff.rfl) (fun c => ?_) blind_id))
  · have h := fillCompact_shown (isoEv c.protocol.propertyOffset) c.isoAvail c.isoAvail.shown codes
    have hcount := (Table.shown_eq_iff.mp h).1
    simp only [hcount]
    exact isoAvail_congr c.isoPTP (shown_shown c).symm rfl h
  · have h := fillShutter_shown (shutterEv c.protocol.propertyOffset) c.shutterAvail
      c.shutterAvail.shown codes
    have hcount := (Table.shown_eq_iff.mp h).1
    simp only [hcount]
    exact shutterAvail_congr c.shutterPTP (shown_shown c).symm rfl h
  · have h := fillCompact_shown (apertureEv c.protocol.propertyOffset) c.apertureAvail
      c.apertureAvail.shown codes
    have hcount := (Table.shown_eq_iff.mp h).1
    simp only [hcount]
    exact apertureAvail_congr c.aperturePTP (shown_shown c).symm rfl h

theorem applyChange_blind (change : Change) :
    Blind shown shown fun c => c.applyChange change := by
  cases change with
  | property item value => exact applyProperty_blind item value
  | values item codes => exact applyValues_blind item codes
  | object handle =>
      intro c
      simp only [applyChange, shown, Table.shown_shown, modeShown_modeShown]
  | other type => exact blind_id

theorem apply_blind (o : Option Output) : Blind shown shown fun c => c.apply o := by
  unfold apply
  split
  · exact applyChange_blind _
  · exact blind_id

theorem applySony_blind (p : SonyProperty) : Blind shown shown fun c => c.applySony p := by
  refine .ite (fun _ => Iff.rfl) (fun c => ?_) (.ite (fun _ => Iff.rfl) (fun c => ?_) blind_id)
  · have h := fillCompact_shown (isoEv c.protocol.propertyOffset) c.isoAvail c.isoAvail.shown
      p.isoCodes
    have hcount := (Table.shown_eq_iff.mp h).1
    simp only [hcount]
    exact isoAvail_congr p.current (shown_shown c).symm rfl h
  · have hempty : ({ c.shutterAvail with count := 0 } : Table shutterCountMax).shown =
        ({ c.shutterAvail.shown with count := 0 } : Table shutterCountMax).shown :=
      Table.shown_eq_iff.mpr ⟨rfl, fun i hi => absurd hi (Nat.not_lt_zero i)⟩
    have h := appendAll_shown _ _ ((ptpShutterList.drop 1).map PropertyDescription.ev) hempty
    have hcount := (Table.shown_eq_iff.mp h).1
    simp only [hcount]
    exact shutterAvail_congr p.current (shown_shown c).symm rfl h

theorem applyPtpEvent_blind (e : Nat × Nat) : Blind shown shown fun c => c.applyPtpEvent e := by
  refine .ite (fun _ => Iff.rfl) (fun c => ?_) (.ite (fun _ => Iff.rfl) (fun c => ?_) blind_id)
  · simp only [shown, Table.shown_shown, modeShown_modeShown]
  · simp only [shown, Table.shown_shown, modeShown_modeShown]

theorem foldl_applyPtpEvent_blind (events : List (Nat × Nat)) :
    Blind shown shown fun c => events.foldl applyPtpEvent c :=
  .foldl applyPtpEvent_blind shown_shown events

section Describe

variable {c d : Camera} (h : c.shown = d.shown) (received : Nat) (buffer : Nat → UInt8)

include h

theorem describeIso_congr
    (hrest : 10 < received ∧ (buffer 2).toNat = 4 →
      SameRest 32 (buffer 10).toNat c.isoAvail d.isoAvail) :
    (c.describeIso received buffer).shown = (d.describeIso received buffer).shown := by
  have hprotocol : c.protocol = d.protocol := congrArg (fun e => e.protocol) h
  have hsupports : c.supports = d.supports := congrArg (fun e => e.supports) h
  unfold describeIso
  by_cases hread : 10 < received ∧ (buffer 2).toNat = 4
  · rw [if_pos hread, if_pos hread]
    refine isoAvail_congr _ h (by rw [hsupports]) ?_
    rw [hprotocol]
    exact fillUpTo_shown 32 _ _ _ _ (hrest hread)
  · rw [if_neg hread, if_neg hread]
    exact h

theorem describeAperture_congr
    (hrest : 10 < received ∧ (buffer 2).toNat = 4 →
      SameRest 32 (buffer 10).toNat c.apertureAvail d.apertureAvail) :
    (c.describeAperture received buffer).shown = (d.describeAperture received buffer).shown := by
  have hprotocol : c.protocol = d.protocol := congrArg (fun e => e.protocol) h
  have hsupports : c.supports = d.supports := congrArg (fun e => e.supports) h
  unfold describeAperture
  by_cases hread : 10 < received ∧ (buffer 2).toNat = 4
  · rw [if_pos hread, if_pos hread]
    refine apertureAvail_congr _ h (by rw [hsupports]) ?_
    rw [hprotocol]
    exact fillUpTo_shown 32 _ _ _ _ (hrest hread)
  · rw [if_neg hread, if_neg hread]
    exact h

theorem describeShutter_congr
    (hrest : 14 < received ∧ (buffer 2).toNat = 6 →
      SameRest 64 (buffer 14).toNat c.shutterAvail d.shutterAvail) :
    (c.describeShutter received buffer).shown = (d.describeShutter received buffer).shown := by
  have hprotocol : c.protocol = d.protocol := congrArg (fun e => e.protocol) h
  have hsupports : c.supports = d.supports := congrArg (fun e => e.supports) h
  unfold describeShutter
  by_cases hread : 14 < received ∧ (buffer 2).toNat = 6
  · rw [if_pos hread, if_pos hread]
    refine shutterAvail_congr _ h (by rw [hsupports]) ?_
    rw [hprotocol]
    exact fillUpTo_shown 64 _ _ _ _ (hrest hread)
  · rw [if_neg hread, if_neg hread]
    exact h

end Describe

end Camera

/-- A turn of the Sony loop goes the same way. -/
theorem SonyFrame.turn_shown (f : SonyFrame) (c : Camera) :
    match f.turn c with
    | .error r => f.turn c.shown = .error r
    | .ok (g, c') => ∃ d, f.turn c.shown = .ok (g, d) ∧ c'.shown = d.shown := by
  unfold turn
  by_cases hend : f.driver.bytesReceived ≤ f.i
  · simp only [if_pos hend]
  · by_cases hfetch : f.ret = .dataRemaining ∧ bufferSize / 2 < f.i
    · by_cases herror : (f.driver.fetchData (bufferSize - f.i)).1 = .error
      · simp only [if_neg hend, if_pos hfetch, if_pos herror]
      · simp only [if_neg hend, if_pos hfetch, if_neg herror]
        exact ⟨_, rfl, (Camera.shown_shown c).symm⟩
    · simp only [if_neg hend, if_neg hfetch]
      cases sonyProperty f.driver.buffer f.i with
      | error err => rfl
      | ok r => exact ⟨_, rfl, Camera.applySony_blind r.1 c⟩

namespace Session

/-- What shows of a session. The two static variables are looked at by two
    comparisons only. -/
def shown (s : Session) : Session :=
  { s with camera := s.camera.shown, count := 0, busySeconds := 0 }

theorem shown_shown (s : Session) : s.shown.shown = s.shown := by
  simp only [shown, Camera.shown_shown]

end Session

/-- What shows of the session a step leaves. -/
def Outcome.shown (o : Outcome) : Session := o.session.shown

namespace Session

theorem blind_id : Blind shown shown fun s => s := fun s => (shown_shown s).symm

theorem blind_quiet : Blind shown Outcome.shown quiet := blind_id

theorem task_blind (task : Task) : Blind shown shown fun s => { s with task := task } :=
  fun s => blind_id { s with task := task }

theorem driver_blind (f : Driver → Driver) :
    Blind shown shown fun s => { s with driver := f s.driver } :=
  fun s => blind_id { s with driver := f s.driver }

/-- Something that is done to the camera alone. -/
theorem camera_blind {f : Camera → Camera} (h : Blind Camera.shown Camera.shown f) :
    Blind shown shown fun s => { s with camera := f s.camera } := fun s =>
  congrArg (fun c => ({ s with camera := c, count := 0, busySeconds := 0 } : Session)) (h s.camera)

theorem needUpdate_blind (need : Bool) :
    Blind shown shown fun s => { s with camera.needUpdate := need } :=
  camera_blind (Camera.needUpdate_blind need)

theorem busy_blind (busy : Bool) : Blind shown shown fun s => { s with camera.busy := busy } :=
  camera_blind (Camera.busy_blind busy)

/-- A transaction, and something that is blind after it. -/
theorem ask_blind (opCode : Nat) (receive : Bool) (params : List Nat) (data : List UInt8)
    {next : Ret → Session → Session} (h : ∀ ret, Blind shown shown (next ret)) :
    Blind shown Outcome.shown fun s => s.ask opCode receive params data next :=
  fun s => (h _).congr (blind_id { s with driver := _ })

theorem sonyReadProperties_blind : Blind shown Outcome.shown sonyReadProperties :=
  (ask_blind sonyOcGetConfig true [] [] fun _ =>
    .ite (fun _ => Iff.rfl) blind_id (task_blind _)).comp (needUpdate_blind false)

theorem sonyEvent_blind (event : List UInt8) : Blind shown shown fun s => s.sonyEvent event := by
  refine .ite (fun _ => Iff.rfl) (fun s => ?_)
    (.ite (fun _ => Iff.rfl) (fun s => ?_) fun s => ?_)
  · simp only [shown, Camera.shown, Table.shown_shown, modeShown_modeShown]
  · exact needUpdate_blind true { s with driver := _ }
  · exact blind_id { s with driver := _ }

theorem sonyCheck_blind (event : List UInt8) :
    Blind shown Outcome.shown fun s => s.sonyCheck event := by
  have hcheck : Blind shown Outcome.shown fun s : Session =>
      if s.camera.needUpdate then s.sonyReadProperties else s.quiet :=
    .ite (fun _ => Iff.rfl) sonyReadProperties_blind blind_quiet
  exact hcheck.comp (sonyEvent_blind event)

theorem eosCheck_blind : Blind shown Outcome.shown eosCheck := by
  refine ask_blind eosOcEventGet true [] [] fun ret =>
    .ite (fun _ => Iff.rfl) blind_id fun s => ?_
  simp only [shown, Camera.shown, Table.shown_shown, modeShown_modeShown]
  rfl

theorem nikonCheck_blind (event : List UInt8) :
    Blind shown Outcome.shown fun s => s.nikonCheck event := by
  refine .ite (fun _ => Iff.rfl) ?_ (task_blind _)
  refine (ask_blind nikonOcCameraReady false [] [] fun _ =>
    .ite (fun _ => Iff.rfl) (busy_blind true) ?_).comp
      (driver_blind fun d => { d with ignoreErrors := true })
  exact (busy_blind false).comp (task_blind _)

theorem nikonUpdate_blind : Blind shown shown nikonUpdate :=
  .ite (fun _ => Iff.rfl) ((needUpdate_blind false).comp (task_blind _)) (task_blind _)

theorem askProperty_blind (p : NikonProperty) :
    Blind shown Outcome.shown fun s => s.askProperty p :=
  ask_blind ptpOcPropertyList true [p.code] [] fun _ =>
    .ite (fun _ => Iff.rfl) (task_blind _) (task_blind _)

theorem setFocus_blind (value : Nat) : Blind shown Outcome.shown fun s => s.setFocus value :=
  .ite (fun _ => Iff.rfl)
    ((ask_blind eosOcPropertySet false [] _ fun _ => blind_id).comp
      (driver_blind fun d => { d with ignoreErrors := true })) blind_quiet

theorem eosStep_blind (phase : Phase) (ret : Ret) :
    Blind shown shown fun s => s.eosStep phase ret := by
  intro s
  simp only [eosStep, shown]
  split
  · simp only [Camera.shown_shown]
  case h_2 =>
    rw [Camera.apply_blind]

theorem sonyStep_blind (i : Nat) (ret : Ret) : Blind shown shown fun s => s.sonyStep i ret := by
  intro s
  have hturn := SonyFrame.turn_shown ⟨i, ret, s.driver⟩ s.camera
  have hcamera : s.shown.camera = s.camera.shown := rfl
  have hdriver : s.shown.driver = s.driver := rfl
  change (s.sonyStep i ret).shown = (s.shown.sonyStep i ret).shown
  unfold sonyStep
  rw [hcamera, hdriver]
  cases hone : (SonyFrame.mk i ret s.driver).turn s.camera with
  | error r =>
      rw [hone] at hturn
      rw [hturn]
      exact blind_id { s with driver := r.2, task := .idle }
  | ok r =>
      rw [hone] at hturn
      rcases hturn with ⟨c, htwo, hshown⟩
      rw [htwo]
      exact congrArg (fun c => ({ s with
        camera := c, driver := r.1.driver, task := .sony r.1.i r.1.ret,
        count := 0, busySeconds := 0 } : Session)) hshown

/-- The busy flag has been up for too long. -/
def Expires (s : Session) (now : Nat) : Prop :=
  s.camera.busy = true ∧ s.busySeconds ≠ 0 ∧ busyTimeoutSeconds ≤ sub32 now s.busySeconds

instance (s : Session) (now : Nat) : Decidable (s.Expires now) :=
  inferInstanceAs (Decidable (_ ∧ _))

theorem expireBusy_shown (s : Session) (now : Nat) :
    (s.expireBusy now).shown =
      if s.Expires now then { s.shown with camera.busy := false } else s.shown := by
  unfold expireBusy
  by_cases hbusy : s.camera.busy = true
  · by_cases hsince : s.busySeconds ≠ 0
    · by_cases hlate : busyTimeoutSeconds ≤ sub32 now s.busySeconds
      · rw [if_pos hbusy, if_pos hsince, if_pos hlate,
          if_pos (show s.Expires now from ⟨hbusy, hsince, hlate⟩)]
        rfl
      · rw [if_pos hbusy, if_pos hsince, if_neg hlate,
          if_neg fun h : s.Expires now => hlate h.2.2]
    · rw [if_pos hbusy, if_neg hsince, if_neg fun h : s.Expires now => hsince h.2.1]
      rfl
  · rw [if_neg hbusy, if_neg fun h : s.Expires now => hbusy h.1]

theorem expireBusy_congr {s t : Session} (h : s.shown = t.shown) (now : Nat)
    (hexpires : s.Expires now ↔ t.Expires now) :
    (s.expireBusy now).shown = (t.expireBusy now).shown := by
  rw [expireBusy_shown, expireBusy_shown, h]
  exact if_congr hexpires rfl rfl

/-- What `checkEvent` does once the busy flag is seen to. -/
theorem checkEvent_congr {s t : Session} (h : s.shown = t.shown) (now : Nat) (event : List UInt8)
    (hexpires : s.camera.ready = true → s.camera.bulbOpen = false →
      (s.Expires now ↔ t.Expires now)) :
    (s.checkEvent now event).shown = (t.checkEvent now event).shown := by
  have hready : s.camera.ready = t.camera.ready := congrArg (fun u => u.camera.ready) h
  have hopen : s.camera.bulbOpen = t.camera.bulbOpen := congrArg (fun u => u.camera.bulbOpen) h
  unfold checkEvent
  rw [← hready, ← hopen]
  by_cases hquiet : s.camera.ready = false ∨ s.camera.bulbOpen = true
  · rw [if_pos hquiet, if_pos hquiet]
    exact h
  · have hexpire := expireBusy_congr h now (hexpires
      (Bool.eq_true_of_not_eq_false fun hr => hquiet (.inl hr))
      (Bool.eq_false_of_not_eq_true fun ho => hquiet (.inr ho)))
    have hprotocol : (s.expireBusy now).camera.protocol = (t.expireBusy now).camera.protocol :=
      congrArg (fun u => u.camera.protocol) hexpire
    rw [if_neg hquiet, if_neg hquiet]
    simp only [← hprotocol]
    cases (s.expireBusy now).camera.protocol with
    | nikon => exact (nikonCheck_blind event).congr hexpire
    | sony => exact (sonyCheck_blind event).congr hexpire
    | eos => exact eosCheck_blind.congr hexpire
    | _ => exact hexpire

theorem nikonPoll_congr {s t : Session} (h : s.shown = t.shown)
    (hdue : 10 < s.count ↔ 10 < t.count) (event : List UInt8) :
    (s.nikonPoll event).shown = (t.nikonPoll event).shown := by
  -- What the count does to the rest, and what comes after it.
  have hcount : (if 10 < s.count then
        { s with camera.needUpdate := true, count := 0 }
      else { s with count := u8 (s.count + 1) } : Session).shown =
      (if 10 < t.count then { t with camera.needUpdate := true, count := 0 }
      else { t with count := u8 (t.count + 1) } : Session).shown := by
    by_cases hs : 10 < s.count
    · rw [if_pos hs, if_pos (hdue.mp hs)]
      exact (needUpdate_blind true).congr h
    · rw [if_neg hs, if_neg fun ht => hs (hdue.mpr ht)]
      exact h
  have hrest : Blind shown shown fun s : Session =>
      let e := s.driver.getEvent event
      let s := { s with driver := e.2 }
      if e.1 = 0 then s
      else { s with
        camera :=
          { s.camera with busy := false }.applyPtpEvent (e.1, le32 e.2.block (commandSize 0)) } := by
    refine .ite (fun _ => Iff.rfl) (driver_blind fun d => (d.getEvent event).2) fun s => ?_
    exact camera_blind ((Camera.applyPtpEvent_blind _).comp (Camera.busy_blind false))
      { s with driver := _ }
  exact hrest.congr hcount

theorem nikonEventsStep_congr {s t : Session} (h : s.shown = t.shown)
    (hdue : s.camera.supports.event = false → (10 < s.count ↔ 10 < t.count))
    (event : List UInt8) :
    (s.nikonEventsStep event).shown = (t.nikonEventsStep event).shown := by
  have hevent : s.camera.supports.event = t.camera.supports.event :=
    congrArg (fun u => u.camera.supports.event) h
  unfold nikonEventsStep
  rw [← hevent]
  by_cases hlists : s.camera.supports.event = true
  · rw [if_pos hlists, if_pos hlists]
    refine (ask_blind nikonOcEventGet true [] [] fun ret =>
      .ite (fun _ => Iff.rfl) (task_blind _) fun s => ?_).congr h
    exact nikonUpdate_blind.congr (camera_blind (Camera.foldl_applyPtpEvent_blind _) s)
  · rw [if_neg hlists, if_neg hlists]
    exact nikonUpdate_blind.congr
      (nikonPoll_congr h (hdue (Bool.eq_false_of_not_eq_true hlists)) event)

/-- A Nikon lists no more values than are read, or what stands in the two tables
    behind those that are is the same. -/
def SameLists (s t : Session) (p : NikonProperty) : Prop :=
  let received := s.driver.bytesReceived
  let buffer := s.driver.buffer
  match p with
  | .iso => 10 < received ∧ (buffer 2).toNat = 4 →
      SameRest 32 (buffer 10).toNat s.camera.isoAvail t.camera.isoAvail
  | .aperture => 10 < received ∧ (buffer 2).toNat = 4 →
      SameRest 32 (buffer 10).toNat s.camera.apertureAvail t.camera.apertureAvail
  | .shutter => 14 < received ∧ (buffer 2).toNat = 6 →
      SameRest 64 (buffer 14).toNat s.camera.shutterAvail t.camera.shutterAvail

theorem describe_congr {s t : Session} (h : s.shown = t.shown) (p : NikonProperty)
    (hlists : s.SameLists t p) : (s.describe p).shown = (t.describe p).shown := by
  have hdriver : s.driver = t.driver := congrArg (fun u => u.driver) h
  have hcamera : s.camera.shown = t.camera.shown := congrArg (fun u => u.camera) h
  have htask : ∀ task {c d : Camera}, c.shown = d.shown →
      ({ s with camera := c, task := task } : Session).shown =
        ({ t with camera := d, driver := s.driver, task := task } : Session).shown := by
    intro task c d hcd
    simp only [shown, hcd]
  unfold SameLists at hlists
  cases p with
  | iso =>
      simp only [describe, ← hdriver]
      exact htask _ (Camera.describeIso_congr hcamera _ _ hlists)
  | aperture =>
      simp only [describe, ← hdriver]
      exact htask _ (Camera.describeAperture_congr hcamera _ _ hlists)
  | shutter =>
      simp only [describe, ← hdriver]
      exact htask _ (Camera.describeShutter_congr hcamera _ _ hlists)

/-- What does not show makes no difference to a step: `checkEvent` finds the busy
    flag up for too long in both or in neither, a Nikon that cannot list its events
    is due for its properties in both or in neither, and where a property is
    described the lists are the same. -/
def Same (s t : Session) (l : Label) : Prop :=
  match s.task, l with
  | .idle, .checkEvent now _ => s.camera.ready = true → s.camera.bulbOpen = false →
      (s.Expires now ↔ t.Expires now)
  | .events _, .proceed => s.camera.supports.event = false → (10 < s.count ↔ 10 < t.count)
  | .describe p, .proceed => s.SameLists t p
  | _, _ => True

theorem step_congr {s t : Session} (h : s.shown = t.shown) (l : Label)
    (hl : Control.stays l = true) (hsame : s.Same t l) :
    (s.step l).map Outcome.shown = (t.step l).map Outcome.shown := by
  have htask : s.task = t.task := congrArg (fun u => u.task) h
  unfold step
  unfold Same at hsame
  rw [← htask]
  cases hs : s.task with
  | idle =>
      rw [hs] at hsame
      cases l with
      | checkEvent now event => exact congrArg some (checkEvent_congr h now event hsame)
      | command opCode receive params data =>
          exact congrArg some ((ask_blind opCode receive params data fun _ => blind_id).congr h)
      | setFocus value => exact congrArg some ((setFocus_blind value).congr h)
      | readProperties => exact congrArg some (sonyReadProperties_blind.congr h)
      | proceed => rfl
      | _ => exact absurd hl Bool.false_ne_true
  | events event =>
      rw [hs] at hsame
      cases l with
      | proceed => exact congrArg some (nikonEventsStep_congr h hsame event)
      | _ => rfl
  | ask p =>
      cases l with
      | proceed => exact congrArg some ((askProperty_blind p).congr h)
      | _ => rfl
  | describe p =>
      rw [hs] at hsame
      cases l with
      | proceed => exact congrArg some (describe_congr h p hsame)
      | _ => rfl
  | eos phase ret =>
      cases l with
      | proceed => exact congrArg some ((eosStep_blind phase ret).congr h)
      | _ => rfl
  | sony i ret =>
      cases l with
      | proceed => exact congrArg some ((sonyStep_blind i ret).congr h)
      | _ => rfl

end Session

namespace Setters

/-- What shows of the setters. -/
def shown (c : Setters) : Setters := { c with session := c.session.shown }

theorem shown_shown (c : Setters) : c.shown.shown = c.shown := by
  simp only [shown, Session.shown_shown]

theorem keep_shown (c : Setters) (p : Setting) (v : Nat) :
    c.shown.keep p v = (c.keep p v).shown := by
  cases p <;> rfl

section Calls

variable (c : Setters) (ev : Nat)

theorem adjust_shown (p : Shifted) (other : Ret) :
    c.shown.adjust p other ev = (c.adjust p other ev).shown := by
  have hprotocol : c.shown.session.camera.protocol = c.session.camera.protocol := rfl
  have hcode : c.shown.code p.setting ev = c.code p.setting ev := rfl
  unfold adjust
  split
  · rfl
  · simp only [hprotocol, hcode]
    cases c.session.camera.protocol with
    | eos => cases p <;> rfl
    | nikon => cases p <;> rfl
    | sony => rfl
    | _ => cases p <;> rfl

theorem setAperture_shown : c.shown.setAperture ev = (c.setAperture ev).shown := by
  have hprotocol : ∀ v, (c.shown.keep .aperture v).session.camera.protocol =
      (c.keep .aperture v).session.camera.protocol := fun _ => rfl
  have hcode : c.shown.code .aperture ev = c.code .aperture ev := rfl
  unfold setAperture
  split
  · rfl
  · simp only [hprotocol, hcode]
    cases (c.keep .aperture (c.code .aperture ev)).session.camera.protocol <;> rfl

theorem set_shown (p : Setting) : c.shown.set p ev = (c.set p ev).shown := by
  cases p with
  | iso => exact adjust_shown c ev .iso .ok
  | shutter => exact adjust_shown c ev .shutter .error
  | aperture => exact setAperture_shown c ev

theorem dir_shown (d : Camera) (p : Shifted) : p.dir d.shown ev = p.dir d ev := by
  cases p <;> rfl

theorem gauge_shown (d : Camera) (p : Shifted) : p.gauge d.shown = p.gauge d := by
  cases p <;> rfl

theorem turn_shown (p : Shifted) (j : Nat) : c.shown.turn p ev j = (c.turn p ev j).shown := by
  have hdir : p.dir c.shown.session.camera ev = p.dir c.session.camera ev :=
    dir_shown ev c.session.camera p
  have hgauge : p.gauge c.shown.session.camera = p.gauge c.session.camera :=
    gauge_shown c.session.camera p
  have hshift : ∀ n i, (c.shown.shiftSonyParameter n i) =
      ((c.shiftSonyParameter n i).1, (c.shiftSonyParameter n i).2.shown) := fun _ _ => rfl
  unfold turn
  simp only [hdir, hgauge, hshift]
  split
  · exact congrArg (fun d => d.finish .ok) (keep_shown c _ _)
  · split
    · rfl
    · rfl

theorem goOn_blind : Blind shown (Option.map shown) goOn := by
  intro c
  have hcall : c.shown.call = c.call := rfl
  unfold goOn
  rw [hcall]
  cases c.call with
  | idle => rfl
  | turn p ev j =>
      simp only [turn_shown, Option.map_some, shown_shown]
  | poll p ev j i before =>
      exact congrArg
        (fun s => some ({ c with session := s, call := .look p ev j i before } : Setters))
        (Session.sonyReadProperties_blind c.session)
  | look p ev j i before =>
      have hgauge : p.gauge c.shown.session.camera = p.gauge c.session.camera :=
        gauge_shown c.session.camera p
      simp only [hgauge]
      split
      · exact congrArg some (shown_shown { c with call := _ }).symm
      · split
        · exact congrArg some (shown_shown { c with call := _ }).symm
        · exact congrArg some (shown_shown (c.finish .error)).symm

end Calls

end Setters

/-- Of a Nikon's mask shows which capture it stands for. -/
def Flags.shown (protocol : Protocol) (f : Flags) : Flags :=
  { f with nikonCapture :=
      if protocol ≠ .nikon then 0
      else if f.nikonCapture &&& 2 ≠ 0 then 2
      else if f.nikonCapture &&& 1 ≠ 0 then 1
      else 0 }

theorem Flags.shown_shown (protocol : Protocol) (f : Flags) :
    (f.shown protocol).shown protocol = f.shown protocol := by
  simp only [shown, Flags.mk.injEq, true_and, and_true]
  grind

/-- What shows of the mask is read as the mask is. -/
theorem Flags.shown_two (f : Flags) :
    (f.shown .nikon).nikonCapture &&& 2 ≠ 0 ↔ f.nikonCapture &&& 2 ≠ 0 := by
  simp only [shown, ne_eq, not_true_eq_false, if_false]
  grind

theorem Flags.shown_one (f : Flags) (htwo : ¬ f.nikonCapture &&& 2 ≠ 0) :
    (f.shown .nikon).nikonCapture &&& 1 ≠ 0 ↔ f.nikonCapture &&& 1 ≠ 0 := by
  simp only [shown, if_neg htwo, ne_eq, not_true_eq_false, if_false]
  grind

namespace Control

/-- What shows of the captures. -/
def shown (c : Control) : Control :=
  { c with
    session := c.session.shown
    flags := c.flags.shown c.session.camera.protocol }

theorem shown_shown (c : Control) : c.shown.shown = c.shown := by
  have hprotocol : c.session.shown.camera.protocol = c.session.camera.protocol := rfl
  simp only [shown, hprotocol, Session.shown_shown, Flags.shown_shown]

end Control

/-- What shows of the state a step leaves. -/
def Deed.shown (d : Deed) : Control := d.control.shown

namespace Control

/-- A command, and something after it. -/
theorem send_shown (c : Control) (flagged : Bool) (opCode : Nat) (params : List Nat)
    {next : Ret → Control → Control} (h : ∀ ret, Blind shown shown (next ret)) :
    (c.send flagged opCode params next).shown = (c.shown.send flagged opCode params next).shown :=
  (h _) { c with session.driver := _ }

theorem blind_id : Blind shown shown fun c => c := fun c => (shown_shown c).symm

theorem blind_quiet : Blind shown Deed.shown quiet := blind_id

/-- What the calls do after a command. -/
theorem call_blind (call : Ret → Call) (ret : Ret) :
    Blind shown shown fun c => { c with call := call ret } :=
  fun c => blind_id { c with call := call ret }

theorem rest_blind (ret : Ret) : Blind shown shown (rest ret) := call_blind (fun _ => .idle) ret

theorem busy_blind : Blind shown shown fun c => { c with session.camera.busy := true } :=
  fun c => blind_id { c with session.camera.busy := true }

theorem close_blind (ret : Ret) : Blind shown shown fun c =>
    if ret = .ok then { c with session.camera.bulbOpen := false } else c :=
  .ite (fun _ => Iff.rfl) (fun c => blind_id { c with session.camera.bulbOpen := false }) blind_id

theorem bulbStartSend_blind : Blind shown Deed.shown bulbStartSend := by
  intro c
  have hprotocol : c.shown.session.camera.protocol = c.session.camera.protocol := rfl
  have hmode : c.shown.flags.ptpBulbMode = c.flags.ptpBulbMode := rfl
  unfold bulbStartSend
  rw [hprotocol, hmode]
  cases c.session.camera.protocol with
  | eos =>
      by_cases hzero : c.flags.ptpBulbMode ≠ 0
      · simp only [if_pos hzero]
        exact send_shown c _ _ _ fun ret => call_blind (fun ret => if ret = .ok then _ else _) ret
      · simp only [if_neg hzero]
        exact send_shown c _ _ _ rest_blind
  | nikon => exact send_shown c _ _ _ rest_blind
  | _ => exact blind_id { c with call := .idle }

theorem bulbEndSend_blind : Blind shown Deed.shown bulbEndSend := by
  intro c
  have hprotocol : c.shown.session.camera.protocol = c.session.camera.protocol := rfl
  have hmode : c.shown.flags.ptpBulbMode = c.flags.ptpBulbMode := rfl
  unfold bulbEndSend
  rw [hprotocol, hmode]
  cases c.session.camera.protocol with
  | eos =>
      by_cases hzero : c.flags.ptpBulbMode ≠ 0
      · simp only [if_pos hzero]
        exact send_shown c _ _ _ fun ret => call_blind (fun ret => if ret = .ok then _ else _) ret
      · simp only [if_neg hzero]
        exact send_shown c _ _ _ close_blind
  | nikon => exact send_shown c _ _ _ close_blind
  | _ => exact blind_id { c with session.camera.bulbOpen := false }

/-- A Nikon is told to capture by what shows of its mask. -/
theorem captureSend_blind : Blind shown Deed.shown captureSend := by
  intro c
  have hprotocol : c.shown.session.camera.protocol = c.session.camera.protocol := rfl
  unfold captureSend
  rw [hprotocol]
  cases hc : c.session.camera.protocol with
  | eos => exact send_shown c _ _ _ rest_blind
  | nikon =>
      have hflags : c.shown.flags = c.flags.shown .nikon := by
        simp only [shown, hc]
      simp only [hflags]
      by_cases htwo : c.flags.nikonCapture &&& 2 ≠ 0
      · simp only [if_pos htwo, if_pos ((Flags.shown_two _).mpr htwo)]
        exact send_shown c _ _ _ rest_blind
      · rw [if_neg htwo, if_neg fun h => htwo ((Flags.shown_two _).mp h)]
        by_cases hone : c.flags.nikonCapture &&& 1 ≠ 0
        · simp only [if_pos hone, if_pos ((Flags.shown_one _ htwo).mpr hone)]
          exact send_shown c _ _ _ rest_blind
        · simp only [if_neg hone, if_neg fun h => hone ((Flags.shown_one _ htwo).mp h)]
          exact send_shown c _ _ _ rest_blind
  | sony => exact blind_id { c with call := .idle }
  | _ => exact send_shown c _ _ _ rest_blind

theorem focusSend_blind (move : Int) (steps : Nat) :
    Blind shown Deed.shown fun c => c.focusSend move steps := by
  refine .ite (fun _ => Iff.rfl) (fun c => blind_id { c with call := .idle }) fun c => ?_
  have hprotocol : c.shown.session.camera.protocol = c.session.camera.protocol := rfl
  have hnext : ∀ ret, Blind shown shown fun c : Control =>
      { c with call := if ret = Ret.ok then .focus move (steps - 1) else .idle } :=
    fun ret => call_blind (fun ret => if ret = .ok then _ else _) ret
  simp only [hprotocol]
  cases c.session.camera.protocol with
  | eos => exact send_shown c _ _ _ hnext
  | nikon => exact send_shown c _ _ _ hnext
  | _ => exact blind_id { c with call := .idle }

theorem goOn_blind : Blind shown (Option.map Deed.shown) goOn := by
  intro c
  have hcall : c.shown.call = c.call := rfl
  unfold goOn
  rw [hcall]
  cases c.call with
  | idle => rfl
  | bulbStart => exact congrArg some (bulbStartSend_blind c)
  | bulbLocked => exact congrArg some (send_shown c _ _ _ rest_blind)
  | bulbUnlock =>
      refine congrArg some (send_shown c _ _ _ fun ret c => ?_)
      exact blind_id { c with session.camera.bulbOpen := _, call := .idle }
  | capture => exact congrArg some (captureSend_blind.comp busy_blind c)
  | focus move steps => exact congrArg some (focusSend_blind move steps c)

/-- A call is made, or cannot be, whatever does not show. `moveFocus` looks at the
    live view besides. -/
theorem step_blind (m : Move) (hsession : ∀ l, m ≠ .session l)
    (hfocus : ∀ move steps, m ≠ .moveFocus move steps) :
    Blind shown (Option.map Deed.shown) fun c => c.step m := by
  cases m with
  | session l => exact absurd rfl (hsession l)
  | moveFocus move steps => exact absurd rfl (hfocus move steps)
  | capture =>
      exact .ite (fun _ => Iff.rfl) (fun c => congrArg some (blind_id { c with call := .capture }))
        fun _ => rfl
  | bulbStart =>
      refine .ite (fun _ => Iff.rfl) (fun c => congrArg some ?_) fun _ => rfl
      exact blind_id { c with
        session.camera.bulbOpen := true, session.camera.busy := true, call := .bulbStart }
  | bulbEnd =>
      exact .ite (fun _ => Iff.rfl) (bulbEndSend_blind.comp busy_blind).some fun _ => rfl
  | goOn => exact .ite (fun _ => Iff.rfl) goOn_blind fun _ => rfl

theorem moveFocus_congr {c d : Control} (h : c.shown = d.shown) (move : Int) (steps : Nat)
    (hlive : c.session.camera.protocol = .eos →
      c.session.camera.modeLiveView = d.session.camera.modeLiveView) :
    (c.step (.moveFocus move steps)).map Deed.shown =
      (d.step (.moveFocus move steps)).map Deed.shown := by
  have htask : c.session.task = d.session.task := congrArg (fun e => e.session.task) h
  have hcall : c.call = d.call := congrArg (fun e => e.call) h
  have hflag : c.flags.focus = d.flags.focus := congrArg (fun e => e.flags.focus) h
  have hprotocol : c.session.camera.protocol = d.session.camera.protocol :=
    congrArg (fun e => e.session.camera.protocol) h
  simp only [step, ← htask, ← hcall, ← hflag, ← hprotocol]
  by_cases heos : c.session.camera.protocol = .eos
  · rw [← hlive heos]
    split
    · exact congrArg (fun e => some { e with call := .focus move steps }) h
    · rfl
  · simp only [heos, false_implies]
    split
    · exact congrArg (fun e => some { e with call := .focus move steps }) h
    · rfl

end Control

end Ptp

end TimelapsePlus
