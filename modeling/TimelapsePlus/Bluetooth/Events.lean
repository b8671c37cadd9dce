import TimelapsePlus.Bluetooth.Modes

/-!
# Lines and Events

What becomes of the lines about the connection, and of the events they stand for.

A line changes the state only where `task` has read it itself, and in a mode it looks
for it in. A command that waits for its `OK` reads lines too, and drops those that
are not it. So a `DISCONNECT` that comes while a command waits leaves the driver
connected. And `waitEvent` keeps one event for the next call of `task`, the last one
of its calls that was any: one about the connection is lost when another comes after
it before the awaited line does.

`Attended` says when neither happens, from what the readings of a call will bring.

## Main definitions

* `Radio.Lossless`: Every line read has changed the state, and every event is told or
  kept.
* `Radio.Silent`: No reading of a call brings a line about the connection.
* `Radio.Heeds`: The reading of `task` may bring one, and those of its commands do not.
* `Radio.WaitHeeds`: So for each call of `task` in a wait, and an event that is kept is
  not overwritten.
* `Radio.Attended`: The condition for a call.

## Theorems

* `Undisturbed.command` and its like: A command in silence changes nothing.
* `task_credit`, `awaitLine_waits`: A call of `task`, and a wait.
* `step_sound`: An attended call loses nothing.
* `run_lossless`: In an attended run no line and no event is lost.
* `disconnect_lost`: A `DISCONNECT` read by a command that waits for its `OK`.
-/

namespace TimelapsePlus

namespace Bluetooth

/-- The event, if it is about the connection. -/
def kept (e : Event) : List Event := if e.links then [e] else []

section EventBuf

/-! ### A reading and the event that is kept -/

theorem Bt.setBuf_eventBuf (s : Bt) (i : Nat) (c : UInt8) :
    (s.setBuf i c).eventBuf = s.eventBuf := by
  unfold Bt.setBuf
  split <;> rfl

theorem Bt.dataByte_eventBuf (s : Bt) (n : Nat) : (s.dataByte n).1.eventBuf = s.eventBuf := by
  unfold Bt.dataByte
  split
  · rfl
  · split <;> rfl

theorem Bt.counted_eventBuf (s : Bt) (n : Nat) : (s.counted n).1.eventBuf = s.eventBuf := by
  unfold Bt.counted
  split
  · rfl
  · split
    · exact (Bt.dataByte_eventBuf _ _).trans (Bt.setBuf_eventBuf s 0 dollar)
    · exact Bt.dataByte_eventBuf _ _

theorem readLoop_eventBuf (timing : List Nat) (line : List UInt8) (s : Bt) (n : Nat) :
    (readLoop timing line s n).1.eventBuf = s.eventBuf := by
  induction timing generalizing line s n with
  | nil => rfl
  | cons polls timing ih =>
      cases line with
      | nil => rfl
      | cons c line =>
          have hreceived : (received s n c).1.eventBuf = s.eventBuf :=
            (Bt.counted_eventBuf _ _).trans (Bt.setBuf_eventBuf s n c)
          rw [readLoop]
          by_cases hlate : polls > patience n
          · rw [if_pos hlate]
          · rw [if_neg hlate]
            by_cases hend : (received s n c).2.2 = true
            · simp only [hend, if_true]
              exact hreceived
            · simp only [hend, Bool.false_eq_true, if_false]
              exact (ih line _ _).trans hreceived

theorem read_eventBuf (timing : List Nat) (line : List UInt8) (s : Bt) :
    (read timing line s).1.eventBuf = s.eventBuf := by
  unfold read
  split
  · rfl
  · exact (Bt.setBuf_eventBuf _ _ _).trans (readLoop_eventBuf timing line _ 0)

/-- A reading that brings nothing leaves an empty text. -/
theorem read_empty {timing : List Nat} {line : List UInt8} {s : Bt}
    (hpresent : s.present = true) (h : (read timing line s).2.1 = 0) :
    (read timing line s).1.buf 0 = 0 := by
  have hne : ¬ s.present = false := by
    rw [hpresent]
    exact Bool.noConfusion
  rw [read, if_neg hne] at h ⊢
  simp only at h ⊢
  rw [h]
  exact Bt.setBuf_buf_self _ _ _ (by decide)

end EventBuf

namespace Radio

/-- Every line about the connection that was read has changed the state, and every
    event that was to be returned has been, or is kept. -/
structure Lossless (s : Radio) : Prop where
  heeded : s.heard = s.heeded
  told : s.due = s.told ++ kept s.bt.eventBuf

/-! ### Silence -/

/-- The next readings bring no line about the connection, in whatever mode the line is
    at each. -/
def Quiet : Nat → Radio → Prop
  | 0, _ => True
  | n + 1, s => ∀ mode, (s.setMode mode).hears = none ∧ Quiet n (s.setMode mode).read.1

/-- No reading of a call brings a line about the connection. -/
def Silent (s : Radio) : Prop := ∀ n, Quiet n s

theorem reading_congr {s t : Radio} (hbt : t.bt = s.bt) (hline : t.line = s.line)
    (harrivals : t.arrivals = s.arrivals) : t.reading = s.reading := by
  unfold reading
  rw [hbt, hline, harrivals]

theorem hears_congr {s t : Radio} (hbt : t.bt = s.bt) (hline : t.line = s.line)
    (harrivals : t.arrivals = s.arrivals) : t.hears = s.hears := by
  unfold hears
  rw [reading_congr hbt hline harrivals, hbt]

/-- What the readings bring depends on the line alone. -/
theorem quiet_congr (n : Nat) {s t : Radio}
    (hbt : ∀ mode, (t.setMode mode).bt = (s.setMode mode).bt) (hline : t.line = s.line)
    (harrivals : t.arrivals = s.arrivals) (h : Quiet n s) : Quiet n t := by
  induction n generalizing s t with
  | zero => trivial
  | succ n ih =>
      intro mode
      have hreading : (t.setMode mode).reading = (s.setMode mode).reading :=
        reading_congr (hbt mode) hline harrivals
      obtain ⟨hhears, hquiet⟩ := h mode
      refine ⟨(hears_congr (hbt mode) hline harrivals).trans hhears, ih ?_ ?_ ?_ hquiet⟩
      · intro other
        show ({ (t.setMode mode).reading.1 with mode := other } : Bt) =
          { (s.setMode mode).reading.1 with mode := other }
        rw [hreading]
      · show (t.setMode mode).reading.2.2 = (s.setMode mode).reading.2.2
        rw [hreading]
      · show t.arrivals.tail = s.arrivals.tail
        rw [harrivals]

/-- Silence goes on after a reading, which has brought no line. -/
theorem Silent.read {s : Radio} (h : s.Silent) : s.hears = none ∧ s.read.1.Silent :=
  ⟨(h 1 s.bt.mode).1, fun n => (h (n + 1) s.bt.mode).2⟩

/-- The driver is where it was, as far as lines and events go, and silence goes on. -/
structure Undisturbed (s t : Radio) : Prop where
  heard : t.heard = s.heard
  heeded : t.heeded = s.heeded
  due : t.due = s.due
  told : t.told = s.told
  keeps : t.bt.eventBuf = s.bt.eventBuf
  present : t.bt.present = s.bt.present
  silent : t.Silent

section Commands

/-! ### Commands in silence -/

variable {s t : Radio}

theorem Undisturbed.refl (h : s.Silent) : s.Undisturbed s := ⟨rfl, rfl, rfl, rfl, rfl, rfl, h⟩

/-- What touches neither the line nor the books. -/
theorem Undisturbed.congr {u : Radio} (h : s.Undisturbed t)
    (hbt : ∀ mode, (u.setMode mode).bt = (t.setMode mode).bt) (hline : u.line = t.line)
    (harrivals : u.arrivals = t.arrivals) (hheard : u.heard = t.heard)
    (hheeded : u.heeded = t.heeded) (hdue : u.due = t.due) (htold : u.told = t.told) :
    s.Undisturbed u where
  heard := hheard.trans h.heard
  heeded := hheeded.trans h.heeded
  due := hdue.trans h.due
  told := htold.trans h.told
  keeps := (congrArg Bt.eventBuf (hbt .cmd)).trans h.keeps
  present := (congrArg Bt.present (hbt .cmd)).trans h.present
  silent n := quiet_congr n hbt hline harrivals (h.silent n)

theorem Undisturbed.read (h : s.Undisturbed t) : s.Undisturbed t.read.1 := by
  obtain ⟨hhears, hsilent⟩ := h.silent.read
  refine ⟨?_, h.heeded, h.due, h.told, (read_eventBuf _ _ _).trans h.keeps,
    (read_present t).trans h.present, hsilent⟩
  show t.heard ++ t.hears.toList = s.heard
  rw [hhears, Option.toList_none, List.append_nil]
  exact h.heard

theorem Undisturbed.send (h : s.Undisturbed t) (text : List Char) :
    s.Undisturbed (t.send text) := by
  have hsame : (t.send text).bt = t.bt ∧ (t.send text).line = t.line ∧
      (t.send text).arrivals = t.arrivals ∧ (t.send text).heard = t.heard ∧
      (t.send text).heeded = t.heeded ∧ (t.send text).due = t.due ∧
      (t.send text).told = t.told := by
    unfold Radio.send
    split_ifs <;> exact ⟨rfl, rfl, rfl, rfl, rfl, rfl, rfl⟩
  obtain ⟨hbt, hline, harrivals, hheard, hheeded, hdue, htold⟩ := hsame
  refine h.congr (fun mode => ?_) hline harrivals hheard hheeded hdue htold
  unfold setMode
  rw [hbt]

theorem Undisturbed.awaitOK (n : Nat) (h : s.Undisturbed t) :
    s.Undisturbed (Radio.awaitOK n t).1 := by
  induction n generalizing t with
  | zero => exact h
  | succ n ih =>
      rw [Radio.awaitOK]
      by_cases hok : t.read.1.starts textOK = true
      · simp only [hok, if_true]
        exact h.read
      · simp only [hok, Bool.false_eq_true, if_false]
        exact ih h.read

theorem Undisturbed.checkOK (h : s.Undisturbed t) : s.Undisturbed t.checkOK.1 := by
  unfold Radio.checkOK
  split_ifs
  · exact h
  · exact h.awaitOK 4

theorem Undisturbed.setMode (h : s.Undisturbed t) (mode : Mode) :
    s.Undisturbed (t.setMode mode) :=
  h.congr (fun _ => rfl) rfl rfl rfl rfl rfl rfl

theorem Undisturbed.setState (h : s.Undisturbed t) (state : State) (n : Nat) :
    s.Undisturbed { t with state := state, newDevices := n } :=
  h.congr (fun _ => rfl) rfl rfl rfl rfl rfl rfl

theorem Undisturbed.cmdMode (h : s.Undisturbed t) : s.Undisturbed t.cmdMode.1 := by
  unfold Radio.cmdMode
  simp only
  split_ifs
  · exact h
  · exact (h.send _).checkOK.setMode .cmd
  · exact (h.send _).checkOK
  · exact h

theorem Undisturbed.dataMode (h : s.Undisturbed t) : s.Undisturbed t.dataMode.1 := by
  unfold Radio.dataMode
  simp only
  split_ifs
  · exact h
  · exact (h.send _).checkOK.setMode .data
  · exact (h.send _).checkOK
  · exact h
  · exact h

theorem Undisturbed.sendCMD (h : s.Undisturbed t) (text : List Char) :
    s.Undisturbed (t.sendCMD text) := by
  unfold Radio.sendCMD
  split_ifs
  · exact h
  · exact h.cmdMode.send text

theorem Undisturbed.command (h : s.Undisturbed t) (text : List Char) :
    s.Undisturbed (t.command text).1 :=
  (h.sendCMD text).checkOK

theorem Undisturbed.disconnect (h : s.Undisturbed t) : s.Undisturbed t.disconnect.1 := by
  unfold Radio.disconnect
  split_ifs
  · exact h
  · exact h.command _

theorem Undisturbed.unlinked (h : s.Undisturbed t) (text : List Char) (leave : Radio → Radio)
    (hleave : ∀ u, s.Undisturbed u → s.Undisturbed (leave u)) :
    s.Undisturbed (t.unlinked text leave).1 := by
  unfold Radio.unlinked
  split_ifs
  · exact h
  · exact h
  · exact (hleave _ (h.sendCMD text)).checkOK

theorem Undisturbed.cancel (h : s.Undisturbed t) : s.Undisturbed t.cancel.1 :=
  h.unlinked _ _ fun u hu => hu.setState .idle u.newDevices

theorem Undisturbed.cancelScan (h : s.Undisturbed t) : s.Undisturbed t.cancelScan.1 :=
  h.unlinked _ _ fun u hu => hu.setState .idle u.newDevices

theorem Undisturbed.advertise (h : s.Undisturbed t) : s.Undisturbed t.advertise.1 :=
  h.unlinked _ _ fun _ hu => hu

theorem Undisturbed.scan (h : s.Undisturbed t) : s.Undisturbed t.scan.1 := by
  unfold Radio.scan
  split_ifs
  · exact h
  · exact h
  · exact (h.setState .scan 0).command _

theorem Undisturbed.connect (h : s.Undisturbed t) (addr : List Char) :
    s.Undisturbed (t.connect addr).1 := by
  unfold Radio.connect
  split_ifs
  · exact h
  · exact (((h.cancel.sendCMD _).sendCMD _).sendCMD _).checkOK

theorem Undisturbed.version (h : s.Undisturbed t) : s.Undisturbed t.version.1 := by
  unfold Radio.version
  simp only
  split_ifs
  · exact h
  · exact (h.command _).read.congr (fun _ => rfl) rfl rfl rfl rfl rfl rfl
  · exact (h.command _).read

theorem Undisturbed.sleep (h : s.Undisturbed t) : s.Undisturbed t.sleep.1 := by
  have hversion : s.Undisturbed ({ t.cancel.1 with state := .sleep } : Radio).version.1 :=
    (h.cancel.setState .sleep t.cancel.1.newDevices).version
  unfold Radio.sleep
  simp only
  split_ifs
  · exact h
  · exact h
  · exact hversion.command _
  · exact hversion

end Commands

/-! ### A line and its text -/

theorem holds_get {s : Bt} {pos : Nat} {text : List UInt8} (h : s.holds pos text = true) (i : Nat)
    {c : UInt8} (hc : text[i]? = some c) : s.buf (pos + i) = c := by
  induction text generalizing pos i with
  | nil => exact absurd hc (by simp only [List.getElem?_nil, reduceCtorEq, not_false_eq_true])
  | cons d text ih =>
      rw [Bt.holds, Bool.and_eq_true, beq_iff_eq] at h
      cases i with
      | zero =>
          rw [List.getElem?_cons_zero, Option.some.injEq] at hc
          rw [Nat.add_zero, h.1, hc]
      | succ i =>
          rw [List.getElem?_cons_succ] at hc
          rw [show pos + (i + 1) = pos + 1 + i by omega]
          exact ih h.2 i hc

/-- A line starts with one of two texts that differ somewhere. -/
theorem starts_differ {s t : Radio} (hbuf : t.bt.buf = s.bt.buf) {text other : List Char}
    (h : s.starts text = true) (i : Nat) {c d : UInt8} (hc : (ascii text)[i]? = some c)
    (hd : (ascii other)[i]? = some d) (hne : c ≠ d) : ¬ t.starts other = true := by
  intro hother
  have hgot := holds_get hother i hd
  rw [hbuf, holds_get h i hc] at hgot
  exact hne hgot

theorem lineRead_cmd {s : Bt} (h : s.mode = .cmd) : s.lineRead =
    if s.holds 0 (ascii textConnect) then some .connect
    else if s.holds 0 (ascii textBrsp) then some (.brsp (s.buf 7 == 49))
    else if s.holds 0 (ascii textDisconnect) then some .disconnect
    else none := by
  unfold Bt.lineRead
  simp only [h, reduceCtorEq, if_false]

/-- A reading that has brought no line about the connection leaves none. -/
theorem lineRead_of_silent {s : Radio} (hpresent : s.bt.present = true)
    (hcmd : s.bt.mode = .cmd) (h : s.hears = none) : s.read.1.bt.lineRead = none := by
  have hne : ¬ s.bt.present = false := by
    rw [hpresent]
    exact Bool.noConfusion
  unfold hears at h
  by_cases hlen : s.reading.2.1 = 0
  · have hempty : s.read.1.bt.buf 0 = 0 := read_empty hpresent hlen
    have hmode : s.read.1.bt.mode = .cmd := (read_mode s).trans hcmd
    -- An empty text starts with nothing.
    have hno : ∀ text : List UInt8, ∀ c, text[0]? = some c → c ≠ 0 →
        ¬ s.read.1.bt.holds 0 text = true := fun text c hc hzero hholds =>
      hzero ((holds_get hholds 0 hc).symm.trans hempty)
    rw [lineRead_cmd hmode, if_neg (hno _ 67 rfl (by decide)), if_neg (hno _ 66 rfl (by decide)),
      if_neg (hno _ 68 rfl (by decide))]
  · rw [if_neg (fun hor => hor.elim hne hlen)] at h
    exact h

/-- No line about the connection is in the buffer. -/
theorem not_starts {s : Radio} (hcmd : s.bt.mode = .cmd) (h : s.bt.lineRead = none) :
    ¬ s.starts textConnect = true ∧ ¬ s.starts textBrsp = true ∧
      ¬ s.starts textDisconnect = true := by
  rw [lineRead_cmd hcmd] at h
  unfold starts
  split_ifs at h with h1 h2 h3
  exact ⟨h1, h2, h3⟩

/-! ### What the readings may bring -/

/-- The readings of an awaited `OK` bring no line about the connection. -/
def Unheard : Nat → Radio → Prop
  | 0, _ => True
  | n + 1, s => s.hears = none ∧ (s.read.1.starts textOK = true ∨ Unheard n s.read.1)

/-- The line makes `task` give a command and wait for its `OK`. -/
def asks (s : Radio) : Bool :=
  s.starts textConnect && decide (s.state = .scan) ||
    s.starts textGattDone && decide (s.state = .checkingGm)

/-- The reading of `task` brings a line that the mode has a handler for, and those of
    the command it may give bring none about the connection. -/
def Heeds (s : Radio) : Prop :=
  s.bt.eventBuf = .null →
    match s.bt.mode with
    | .cmd => s.read.2 ≠ 0 → s.read.1.asks = true → Unheard 4 s.read.1
    | .data => s.hears = none ∨ s.hears = some .disconnect

theorem unheard_congr (n : Nat) {s t : Radio} (hbt : t.bt = s.bt) (hline : t.line = s.line)
    (harrivals : t.arrivals = s.arrivals) (h : Unheard n s) : Unheard n t := by
  induction n generalizing s t with
  | zero => trivial
  | succ n ih =>
      have hreading := reading_congr hbt hline harrivals
      refine ⟨(hears_congr hbt hline harrivals).trans h.1, ?_⟩
      rcases h.2 with hok | hrest
      · left
        show t.reading.1.holds 0 _ = true
        rw [hreading]
        exact hok
      · right
        refine ih ?_ ?_ ?_ hrest
        · exact congrArg Prod.fst hreading
        · exact congrArg (fun r => r.2.2) hreading
        · exact congrArg List.tail harrivals

/-- What a line and its handlers have changed: the books account for it. -/
structure Credit (s : Radio) (l : Option Line) (r : Radio × Event) : Prop where
  heard : r.1.heard = s.heard
  heeded : r.1.heeded = s.heeded ++ l.toList
  due : r.1.due = s.due ++ kept r.2
  told : r.1.told = s.told
  keeps : r.1.bt.eventBuf = s.bt.eventBuf
  present : r.1.bt.present = s.bt.present

theorem read_credit {s : Radio} (h : s.hears = none) : s.Credit none (s.read.1, .null) := by
  refine ⟨?_, (List.append_nil _).symm, (List.append_nil _).symm, rfl, read_eventBuf _ _ _,
    read_present s⟩
  show s.heard ++ s.hears.toList = s.heard
  rw [h, Option.toList_none, List.append_nil]

theorem Credit.next {s t : Radio} {l : Option Line} {r : Radio × Event}
    (h : s.Credit none (t, .null)) (hnext : t.Credit l r) : s.Credit l r where
  heard := hnext.heard.trans h.heard
  heeded := by
    rw [hnext.heeded, h.heeded, Option.toList_none, List.append_nil]
  due := by
    have hsame : t.due = s.due := h.due.trans (List.append_nil _)
    rw [hnext.due, hsame]
  told := hnext.told.trans h.told
  keeps := hnext.keeps.trans h.keeps
  present := hnext.present.trans h.present

/-- An `OK` that is waited for in command mode, with no line about the connection read. -/
theorem awaitOK_unheard (n : Nat) {s : Radio} (hpresent : s.bt.present = true)
    (hcmd : s.bt.mode = .cmd) (h : Unheard (n + 1) s) :
    s.Credit none ((awaitOK (n + 1) s).1, .null) ∧
      (awaitOK (n + 1) s).1.bt.lineRead = none := by
  have hread := read_credit h.1
  have hline := lineRead_of_silent hpresent hcmd h.1
  induction n generalizing s with
  | zero =>
      rw [awaitOK]
      by_cases hok : s.read.1.starts textOK = true
      · simp only [hok, if_true]
        exact ⟨hread, hline⟩
      · simp only [hok, Bool.false_eq_true, if_false]
        exact ⟨hread, hline⟩
  | succ n ih =>
      rw [awaitOK]
      by_cases hok : s.read.1.starts textOK = true
      · simp only [hok, if_true]
        exact ⟨hread, hline⟩
      · simp only [hok, Bool.false_eq_true, if_false]
        have hrest := h.2.resolve_left hok
        have hpresent' := (read_present s).trans hpresent
        have hcmd' := (read_mode s).trans hcmd
        obtain ⟨hcredit, hnone⟩ := ih hpresent' hcmd' hrest (read_credit hrest.1)
          (lineRead_of_silent hpresent' hcmd' hrest.1)
        exact ⟨hread.next hcredit, hnone⟩

section Handlers

/-! ### The handlers -/

variable {s : Radio} {r : Radio × Event}

theorem discovery_skip (h : ¬ r.1.starts textDiscovery = true) : discovery r = r := by
  unfold discovery
  rw [if_neg]
  rw [Bool.not_eq_true] at h
  rw [h, Bool.false_and, Bool.false_and]
  exact Bool.false_ne_true

theorem connectLine_skip (h : ¬ r.1.starts textConnect = true) : connectLine r = r := by
  unfold connectLine
  rw [if_neg h]

theorem brspLine_skip (h : ¬ r.1.starts textBrsp = true) : brspLine r = r := by
  unfold brspLine
  rw [if_neg h]

theorem gattDc_skip (h : ¬ r.1.starts textGattDc = true) : gattDc r = r := by
  unfold gattDc
  rw [if_neg h]

theorem gattDone_skip (h : ¬ r.1.starts textGattDone = true) : gattDone r = r := by
  unfold gattDone
  rw [if_neg h]

theorem disconnectLine_skip (h : ¬ r.1.starts textDisconnect = true) : disconnectLine r = r := by
  unfold disconnectLine
  rw [if_neg h]

theorem doneLine_skip (h : ¬ r.1.starts textDone = true) : doneLine r = r := by
  unfold doneLine
  rw [if_neg h]

theorem awaited_credit {l : Option Line} (h : s.Credit l r) : s.Credit l (awaited r) := by
  unfold awaited
  split_ifs
  · exact ⟨h.heard, h.heeded, h.due, h.told, h.keeps, h.present⟩
  · exact h

/-- The end of a scan takes the place of no event about the connection. -/
theorem doneLine_credit {l : Option Line} (h : s.Credit l r) (hlinks : r.2.links = false) :
    s.Credit l (doneLine r) := by
  unfold doneLine
  split_ifs
  · have hkept : kept r.2 = [] := by
      unfold kept
      rw [hlinks, if_neg Bool.false_ne_true]
    have hdue := h.due
    rw [hkept] at hdue
    exact ⟨h.heard, h.heeded, hdue, h.told, h.keeps, h.present⟩
  · exact h

/-- The text is that of no later line. -/
structure Spent (s : Radio) : Prop where
  gattDc : ¬ s.starts textGattDc = true
  gattDone : ¬ s.starts textGattDone = true
  disconnect : ¬ s.starts textDisconnect = true
  done : ¬ s.starts textDone = true

theorem spent_credit {l : Option Line} (h : s.Credit l r) (hspent : r.1.Spent) :
    s.Credit l (awaited (doneLine (disconnectLine (gattDone (gattDc r))))) := by
  rw [gattDc_skip hspent.gattDc, gattDone_skip hspent.gattDone,
    disconnectLine_skip hspent.disconnect, doneLine_skip hspent.done]
  exact awaited_credit h

/-- A text with no line about the connection, when nothing is being looked for. -/
theorem connected_credit {l : Option Line} (h : s.Credit l r) (hcmd : r.1.bt.mode = .cmd)
    (hline : r.1.bt.lineRead = none) (hstate : r.1.state = .connected)
    (hlinks : r.2.links = false) :
    s.Credit l (awaited (doneLine (disconnectLine (gattDone (gattDc r))))) := by
  have hdc : gattDc r = r := by
    unfold gattDc
    rw [hstate]
    simp only [reduceCtorEq, false_and, if_false, ite_self]
  have hdone : gattDone r = r := by
    unfold gattDone
    rw [hstate]
    simp only [ite_self]
  rw [hdc, hdone, disconnectLine_skip (not_starts hcmd hline).2.2]
  exact awaited_credit (doneLine_credit h hlinks)

theorem spent_connect {t : Radio} (hbuf : t.bt.buf = s.bt.buf)
    (h : s.starts textConnect = true) : t.Spent :=
  ⟨starts_differ hbuf h 0 rfl rfl (by decide), starts_differ hbuf h 0 rfl rfl (by decide),
    starts_differ hbuf h 0 rfl rfl (by decide), starts_differ hbuf h 0 rfl rfl (by decide)⟩

theorem spent_brsp {t : Radio} (hbuf : t.bt.buf = s.bt.buf) (h : s.starts textBrsp = true) :
    t.Spent :=
  ⟨starts_differ hbuf h 0 rfl rfl (by decide), starts_differ hbuf h 0 rfl rfl (by decide),
    starts_differ hbuf h 0 rfl rfl (by decide), starts_differ hbuf h 0 rfl rfl (by decide)⟩

theorem not_done {t : Radio} (hbuf : t.bt.buf = s.bt.buf)
    (h : s.starts textDisconnect = true) : ¬ t.starts textDone = true :=
  starts_differ hbuf h 1 rfl rfl (by decide)

theorem credit_self : s.Credit none (s, .null) :=
  ⟨rfl, (List.append_nil _).symm, (List.append_nil _).symm, rfl, rfl, rfl⟩

theorem sendCMD_books (h : s.bt.mode = .cmd) (text : List Char) :
    (s.sendCMD text).bt = s.bt ∧ (s.sendCMD text).line = s.line ∧
      (s.sendCMD text).arrivals = s.arrivals ∧ (s.sendCMD text).heard = s.heard ∧
      (s.sendCMD text).heeded = s.heeded ∧ (s.sendCMD text).due = s.due ∧
      (s.sendCMD text).told = s.told := by
  rw [sendCMD_cmd s text h]
  unfold send
  split_ifs <;> exact ⟨rfl, rfl, rfl, rfl, rfl, rfl, rfl⟩

/-- A command given in command mode, and its `OK`. The state may change meanwhile. -/
theorem command_credit {t : Radio} (hpresent : t.bt.present = true) (hcmd : t.bt.mode = .cmd)
    (h : Unheard 4 t) (text : List Char) (leave : State → State) :
    let u : Radio := { t.sendCMD text with state := leave (t.sendCMD text).state }
    t.Credit none (u.checkOK.1, .null) ∧ u.checkOK.1.bt.lineRead = none ∧
      u.checkOK.1.bt.mode = .cmd := by
  intro u
  obtain ⟨hbt, hline, harrivals, hheard, hheeded, hdue, htold⟩ := sendCMD_books hcmd text
  have hu : u.bt = t.bt := hbt
  have hne : ¬ u.bt.present = false := by
    rw [hu, hpresent]
    exact Bool.noConfusion
  have hok : u.checkOK = awaitOK 4 u := by rw [checkOK, if_neg hne]
  have hawait := awaitOK_unheard 3 (by rw [hu]; exact hpresent) (by rw [hu]; exact hcmd)
    (unheard_congr 4 hu hline harrivals h)
  have hsent : t.Credit none (u, .null) :=
    ⟨hheard, hheeded.trans (List.append_nil _).symm, hdue.trans (List.append_nil _).symm, htold,
      by rw [hu], by rw [hu]⟩
  rw [hok]
  exact ⟨hsent.next hawait.1, hawait.2, (awaitOK_keeps u 4).2.1.trans (by rw [hu]; exact hcmd)⟩

/-- `CONNECT`. -/
theorem connect_credit (hpresent : s.bt.present = true) (hcmd : s.bt.mode = .cmd)
    (hasks : s.asks = true → Unheard 4 s) (h : s.starts textConnect = true) :
    s.Credit (some .connect) s.commandLine := by
  have hdiscovery : discovery (s, .null) = (s, .null) :=
    discovery_skip (starts_differ rfl h 0 rfl rfl (by decide))
  unfold commandLine
  rw [hdiscovery]
  by_cases hscan : s.state = .scan
  · -- The scan is cancelled first, and another text is left in the buffer.
    have hunheard : Unheard 4 s := by
      refine hasks ?_
      rw [asks, h, hscan]
      rfl
    have hne : ¬ s.bt.present = false := by
      rw [hpresent]
      exact Bool.noConfusion
    obtain ⟨hcredit, hline, hmode⟩ := command_credit hpresent hcmd hunheard
      ['A', 'T', 'D', 'C', ',', '1', ',', '1', '\r'] fun _ => .idle
    have hconnect : connectLine (s, .null) =
        ({ s.cancelScan.1.heeds .connect with devices := 0, state := .connected }, .null) := by
      unfold connectLine
      rw [if_pos h, if_pos hscan]
    have hcancel : s.cancelScan = (Radio.checkOK
        { s.sendCMD ['A', 'T', 'D', 'C', ',', '1', ',', '1', '\r'] with state := .idle }) := by
      unfold cancelScan unlinked
      rw [if_neg hne, if_neg]
      rw [hscan]
      exact Bool.false_ne_true
    rw [← hcancel] at hcredit hline hmode
    have hheeds : s.Credit (some .connect)
        ({ s.cancelScan.1.heeds .connect with devices := 0, state := .connected }, .null) := by
      refine ⟨hcredit.heard, ?_, hcredit.due, hcredit.told, hcredit.keeps, hcredit.present⟩
      show s.cancelScan.1.heeded ++ [Line.connect] = s.heeded ++ [Line.connect]
      rw [hcredit.heeded, Option.toList_none, List.append_nil]
    rw [hconnect, brspLine_skip]
    · exact connected_credit hheeds hmode hline rfl rfl
    · exact (not_starts (s := s.cancelScan.1) hmode hline).2.1
  · have hconnect : connectLine (s, .null) =
        ({ s.heeds .connect with devices := 0, state := .connected }, .null) := by
      unfold connectLine
      rw [if_pos h, if_neg hscan]
    have hcredit : s.Credit (some .connect)
        ({ s.heeds .connect with devices := 0, state := .connected }, .null) :=
      ⟨rfl, rfl, (List.append_nil _).symm, rfl, rfl, rfl⟩
    rw [hconnect, brspLine_skip]
    · exact spent_credit hcredit (spent_connect rfl h)
    · exact starts_differ rfl h 0 rfl rfl (by decide)

/-- `BRSP`. -/
theorem brsp_credit (h : s.starts textBrsp = true) :
    s.Credit (some (.brsp (s.bt.buf 7 == 49))) s.commandLine := by
  have hdiscovery : discovery (s, .null) = (s, .null) :=
    discovery_skip (starts_differ rfl h 0 rfl rfl (by decide))
  have hconnect : connectLine (s, .null) = (s, .null) :=
    connectLine_skip (starts_differ rfl h 0 rfl rfl (by decide))
  unfold commandLine
  rw [hdiscovery, hconnect]
  by_cases hone : (s.bt.buf 7 == 49) = true
  · have hbrsp : brspLine (s, .null) =
        ({ (s.setMode .data).heeds (.brsp true) with
          state := .connected, due := s.due ++ [Event.connect] }, .connect) := by
      unfold brspLine
      rw [if_pos h, if_pos hone]
    rw [hbrsp, hone]
    exact spent_credit ⟨rfl, rfl, rfl, rfl, rfl, rfl⟩ (spent_brsp rfl h)
  · let t : Radio := { (s.setMode .cmd).heeds (.brsp false) with state := .checkingNmx }
    let text := "ATGDCU,0,BF45E40ADE2A4BC8BBA0E5D6065F1B4B\r".toList
    have hbrsp : brspLine (s, .null) = (t.sendCMD text, .null) := by
      unfold brspLine
      rw [if_pos h, if_neg hone]
    rw [Bool.not_eq_true] at hone
    rw [hbrsp, hone]
    obtain ⟨hbt, -, -, hheard, hheeded, hdue, htold⟩ := sendCMD_books (s := t) rfl text
    have hcredit : s.Credit (some (.brsp false)) (t.sendCMD text, .null) :=
      ⟨hheard, hheeded, hdue.trans (List.append_nil _).symm, htold, by rw [hbt]; rfl,
        by rw [hbt]; rfl⟩
    exact spent_credit hcredit (spent_brsp (congrArg Bt.buf hbt) h)

/-- `DISCONNECT`. -/
theorem disconnect_credit (h : s.starts textDisconnect = true) :
    s.Credit (some .disconnect) s.commandLine := by
  have hdiscovery : discovery (s, .null) = (s, .null) :=
    discovery_skip (starts_differ rfl h 5 rfl rfl (by decide))
  have hconnect : connectLine (s, .null) = (s, .null) :=
    connectLine_skip (starts_differ rfl h 0 rfl rfl (by decide))
  have hbrsp : brspLine (s, .null) = (s, .null) :=
    brspLine_skip (starts_differ rfl h 0 rfl rfl (by decide))
  have hdc : gattDc (s, .null) = (s, .null) :=
    gattDc_skip (starts_differ rfl h 0 rfl rfl (by decide))
  have hdone : gattDone (s, .null) = (s, .null) :=
    gattDone_skip (starts_differ rfl h 0 rfl rfl (by decide))
  have hgone : disconnectLine (s, .null) =
      ({ (s.setMode .cmd).heeds .disconnect with
        state := .idle, due := s.due ++ [Event.disconnect] }, .disconnect) := by
    unfold disconnectLine
    rw [if_pos h]
  unfold commandLine
  rw [hdiscovery, hconnect, hbrsp, hdc, hdone, hgone, doneLine_skip]
  · exact awaited_credit ⟨rfl, rfl, rfl, rfl, rfl, rfl⟩
  · exact not_done rfl h

/-- `GATT_DC`. -/
theorem gattDc_credit (h : s.starts textGattDc = true) :
    s.Credit none (awaited (doneLine (disconnectLine (gattDone (gattDc (s, .null)))))) := by
  -- The handlers that follow look for other texts.
  have hlast : ∀ r : Radio × Event, s.Credit none r → r.1.bt.buf = s.bt.buf →
      s.Credit none (awaited (doneLine (disconnectLine (gattDone r)))) := by
    intro r hr hbuf
    rw [gattDone_skip (starts_differ hbuf h 6 rfl rfl (by decide)),
      disconnectLine_skip (starts_differ hbuf h 0 rfl rfl (by decide)),
      doneLine_skip (starts_differ hbuf h 0 rfl rfl (by decide))]
    exact awaited_credit hr
  by_cases hnmx : s.state = .checkingNmx ∧
      s.bt.holds 19 (ascii "BF45E40ADE2A4BC8BBA0E5D6065F1B4B".toList) = true
  · have hdc : gattDc (s, .null) =
        ({ s.setMode .cmd with state := .connectedNmx, due := s.due ++ [Event.connect] },
          .connect) := by
      unfold gattDc
      rw [if_pos h, if_pos hnmx]
    rw [hdc]
    exact hlast _ ⟨rfl, (List.append_nil _).symm, rfl, rfl, rfl, rfl⟩ rfl
  · by_cases hgm : s.state = .checkingGm ∧
        s.bt.holds 10 (ascii ['0', '0', '0', '3', '7']) = true
    · have hdc : gattDc (s, .null) = ({ s with state := .authorizingGm }, .null) := by
        unfold gattDc
        rw [if_pos h, if_neg hnmx, if_pos hgm]
      rw [hdc]
      exact hlast _ ⟨rfl, (List.append_nil _).symm, (List.append_nil _).symm, rfl, rfl, rfl⟩ rfl
    · have hdc : gattDc (s, .null) = (s, .null) := by
        unfold gattDc
        rw [if_pos h, if_neg hnmx, if_neg hgm]
      rw [hdc]
      exact hlast _ credit_self rfl

/-- `GATT_DONE`. -/
theorem gattDone_credit (hpresent : s.bt.present = true) (hcmd : s.bt.mode = .cmd)
    (hasks : s.asks = true → Unheard 4 s) (h : s.starts textGattDone = true) :
    s.Credit none (awaited (doneLine (disconnectLine (gattDone (s, .null))))) := by
  have hlast : ∀ r : Radio × Event, s.Credit none r → r.1.bt.buf = s.bt.buf →
      s.Credit none (awaited (doneLine (disconnectLine r))) := by
    intro r hr hbuf
    rw [disconnectLine_skip (starts_differ hbuf h 0 rfl rfl (by decide)),
      doneLine_skip (starts_differ hbuf h 0 rfl rfl (by decide))]
    exact awaited_credit hr
  cases hstate : s.state with
  | checkingNmx =>
      let t : Radio := { s with state := .checkingGm }
      let text := "ATGDCU,0,0000000200001000800000805F9B34FB\r".toList
      have hgatt : gattDone (s, .null) = (t.sendCMD text, .null) := by
        unfold gattDone
        rw [if_pos h]
        simp only [hstate, t, text]
      obtain ⟨hbt, -, -, hheard, hheeded, hdue, htold⟩ := sendCMD_books (s := t) hcmd text
      have hcredit : s.Credit none (t.sendCMD text, .null) :=
        ⟨hheard, hheeded.trans (List.append_nil _).symm, hdue.trans (List.append_nil _).symm,
          htold, by rw [hbt], by rw [hbt]⟩
      rw [hgatt]
      exact hlast _ hcredit (congrArg Bt.buf hbt)
  | authorizingGm =>
      let t : Radio :=
        { s.setMode .cmd with state := .connectedGm, due := s.due ++ [Event.connect] }
      let text := "ATGW,0,00037,0,012600\r".toList
      have hgatt : gattDone (s, .null) = (t.sendCMD text, .connect) := by
        unfold gattDone
        rw [if_pos h]
        simp only [hstate, t, text]
      obtain ⟨hbt, -, -, hheard, hheeded, hdue, htold⟩ := sendCMD_books (s := t) rfl text
      have hcredit : s.Credit none (t.sendCMD text, .connect) :=
        ⟨hheard, hheeded.trans (List.append_nil _).symm, hdue, htold, by rw [hbt]; rfl,
          by rw [hbt]; rfl⟩
      rw [hgatt]
      have hbuf : (t.sendCMD text).bt.buf = s.bt.buf := by
        rw [hbt]
        rfl
      exact hlast _ hcredit hbuf
  | checkingGm =>
      -- The connection is given up, and another text is left in the buffer.
      have hunheard : Unheard 4 s := by
        refine hasks ?_
        rw [asks, h, hstate]
        exact Bool.or_true _
      let t : Radio := { s with state := .connected }
      have hgatt : gattDone (s, .null) = (t.disconnect.1, .null) := by
        unfold gattDone
        rw [if_pos h]
        simp only [hstate, t]
      obtain ⟨hcredit, hline, hmode⟩ := command_credit (t := t) hpresent hcmd
        (unheard_congr 4 rfl rfl rfl hunheard) ['A', 'T', 'D', 'H', ',', '0', '\r'] id
      have hne : ¬ t.bt.present = false := by
        rw [show t.bt.present = true from hpresent]
        exact Bool.noConfusion
      have hgone : t.disconnect = Radio.checkOK
          { t.sendCMD ['A', 'T', 'D', 'H', ',', '0', '\r'] with
            state := id (t.sendCMD ['A', 'T', 'D', 'H', ',', '0', '\r']).state } := by
        unfold disconnect command
        rw [if_neg hne]
        rfl
      rw [← hgone] at hcredit hline hmode
      have hall : s.Credit none (t.disconnect.1, .null) :=
        ⟨hcredit.heard, hcredit.heeded, hcredit.due, hcredit.told, hcredit.keeps,
          hcredit.present⟩
      rw [hgatt, disconnectLine_skip (not_starts hmode hline).2.2]
      exact awaited_credit (doneLine_credit hall rfl)
  | sleep | idle | scan | connected | connectedNmx | connectedGm =>
      have hgatt : gattDone (s, .null) = (s, .null) := by
        unfold gattDone
        rw [if_pos h]
        simp only [hstate]
      rw [hgatt]
      exact hlast _ credit_self rfl

/-- Any other line. -/
theorem plain_credit (hpresent : s.bt.present = true) (hcmd : s.bt.mode = .cmd)
    (hasks : s.asks = true → Unheard 4 s) (h : s.bt.lineRead = none) :
    s.Credit none s.commandLine := by
  obtain ⟨hconnect, hbrsp, hdisconnect⟩ := not_starts hcmd h
  unfold commandLine
  by_cases hdiscovery : s.starts textDiscovery = true
  · have hr : ∃ n m e, discovery (s, .null) = ({ s with newDevices := n, devices := m }, e) ∧
        kept e = [] := by
      unfold discovery
      split_ifs
      · exact ⟨_, _, .discovery, rfl, rfl⟩
      · exact ⟨s.newDevices, s.devices, .null, rfl, rfl⟩
    rcases hr with ⟨n, m, e, hr, hkept⟩
    rw [hr, connectLine_skip (starts_differ (s := s) rfl hdiscovery 0 rfl rfl (by decide)),
      brspLine_skip (starts_differ (s := s) rfl hdiscovery 0 rfl rfl (by decide))]
    refine spent_credit ⟨rfl, (List.append_nil _).symm, ?_, rfl, rfl, rfl⟩ ⟨?_, ?_, ?_, ?_⟩
    · rw [hkept]
      exact (List.append_nil _).symm
    · exact starts_differ (s := s) rfl hdiscovery 0 rfl rfl (by decide)
    · exact starts_differ (s := s) rfl hdiscovery 0 rfl rfl (by decide)
    · exact starts_differ (s := s) rfl hdiscovery 5 rfl rfl (by decide)
    · exact starts_differ (s := s) rfl hdiscovery 1 rfl rfl (by decide)
  · rw [discovery_skip hdiscovery, connectLine_skip hconnect, brspLine_skip hbrsp]
    by_cases hdc : s.starts textGattDc = true
    · exact gattDc_credit hdc
    · rw [gattDc_skip hdc]
      by_cases hdone : s.starts textGattDone = true
      · exact gattDone_credit hpresent hcmd hasks hdone
      · rw [gattDone_skip hdone, disconnectLine_skip hdisconnect]
        exact awaited_credit (doneLine_credit credit_self rfl)

end Handlers

/-- `task` on a line in command mode heeds the line that is in the buffer. -/
theorem commandLine_credit {s : Radio} (hpresent : s.bt.present = true)
    (hcmd : s.bt.mode = .cmd) (hasks : s.asks = true → Unheard 4 s) :
    s.Credit s.bt.lineRead s.commandLine := by
  by_cases hconnect : s.starts textConnect = true
  · have hline : s.bt.lineRead = some .connect := (lineRead_cmd hcmd).trans (if_pos hconnect)
    rw [hline]
    exact connect_credit hpresent hcmd hasks hconnect
  · by_cases hbrsp : s.starts textBrsp = true
    · have hline : s.bt.lineRead = some (.brsp (s.bt.buf 7 == 49)) :=
        (lineRead_cmd hcmd).trans ((if_neg hconnect).trans (if_pos hbrsp))
      rw [hline]
      exact brsp_credit hbrsp
    · by_cases hdisconnect : s.starts textDisconnect = true
      · have hline : s.bt.lineRead = some .disconnect := (lineRead_cmd hcmd).trans
          ((if_neg hconnect).trans ((if_neg hbrsp).trans (if_pos hdisconnect)))
        rw [hline]
        exact disconnect_credit hdisconnect
      · have hline : s.bt.lineRead = none := (lineRead_cmd hcmd).trans
          ((if_neg hconnect).trans ((if_neg hbrsp).trans (if_neg hdisconnect)))
        rw [hline]
        exact plain_credit hpresent hcmd hasks hline

/-- `task` on what comes in data mode heeds a `DISCONNECT`. -/
theorem packet_credit {s : Radio} (hdata : s.bt.mode = .data)
    (h : s.bt.lineRead = none ∨ s.bt.lineRead = some .disconnect) :
    s.Credit s.bt.lineRead s.packet := by
  have hline : s.bt.lineRead =
      if s.bt.holds s.bt.leading (ascii textDisconnect) then some .disconnect else none := by
    unfold Bt.lineRead at h ⊢
    rw [if_pos hdata] at h ⊢
    split_ifs at h ⊢ <;> simp only [reduceCtorEq, Option.some.injEq, or_self] at h ⊢
  unfold packet
  rw [hline]
  by_cases hgone : s.bt.holds s.bt.leading (ascii textDisconnect) = true
  · rw [if_pos hgone, if_pos hgone]
    exact ⟨rfl, rfl, rfl, rfl, rfl, rfl⟩
  · rw [if_neg hgone, if_neg hgone]
    split_ifs
    · exact ⟨rfl, (List.append_nil _).symm, (List.append_nil _).symm, rfl, rfl, rfl⟩
    · exact credit_self

/-- What a call of `task` does to the books, when it returns `e`. -/
structure Accounts (s t : Radio) (e : Event) : Prop where
  heeded : s.heard = s.heeded → t.heard = t.heeded
  due : s.bt.eventBuf = .null → t.due = s.due ++ kept e
  kept : s.bt.eventBuf ≠ .null → t.due = s.due ∧ e = s.bt.eventBuf
  told : t.told = s.told
  free : t.bt.eventBuf = .null
  present : t.bt.present = s.bt.present
  event : t.event = e

/-- A call of `task` accounts for the line it reads, and for an event that was kept. -/
theorem task_credit {s : Radio} (hpresent : s.bt.present = true) (h : s.Heeds) :
    s.Accounts s.task.1 s.task.2 := by
  have hne : ¬ s.bt.present = false := by
    rw [hpresent]
    exact Bool.noConfusion
  unfold task
  rw [if_neg hne]
  by_cases hfree : s.bt.eventBuf = .null
  · rw [if_neg (not_not_intro hfree)]
    have hheeds := h hfree
    have hcredit : s.read.1.Credit s.hears (s.read.1.handle s.read.2) := by
      unfold handle
      by_cases hlen : s.read.2 = 0
      · have hnone : s.hears = none := if_pos (Or.inr hlen)
        rw [if_pos hlen, hnone]
        exact credit_self
      · have hhears : s.hears = s.read.1.bt.lineRead := if_neg fun hor => hor.elim hne hlen
        rw [if_neg hlen, hhears]
        cases hmode : s.bt.mode with
        | cmd =>
            rw [hmode] at hheeds
            have hcmd : s.read.1.bt.mode = .cmd := (read_mode s).trans hmode
            rw [if_pos hcmd]
            exact commandLine_credit ((read_present s).trans hpresent) hcmd (hheeds hlen)
        | data =>
            rw [hmode, hhears] at hheeds
            have hdata : s.read.1.bt.mode = .data := (read_mode s).trans hmode
            rw [if_neg (by rw [hdata]; simp only [reduceCtorEq, not_false_eq_true])]
            exact packet_credit hdata hheeds
    refine ⟨fun hsame => ?_, fun _ => hcredit.due, fun hno => absurd hfree hno, hcredit.told,
      hcredit.keeps.trans ((read_eventBuf _ _ _).trans hfree),
      hcredit.present.trans (read_present s), rfl⟩
    show (s.read.1.handle s.read.2).1.heard = (s.read.1.handle s.read.2).1.heeded
    rw [hcredit.heard, hcredit.heeded]
    show s.heard ++ s.hears.toList = s.heeded ++ s.hears.toList
    rw [hsame]
  · rw [if_pos hfree]
    exact ⟨id, fun hno => absurd hno hfree, fun _ => ⟨rfl, rfl⟩, rfl, rfl, rfl, rfl⟩

/-! ### The wait for a line -/

/-- What is in the buffer makes `task` return an event, or may do so. -/
def rouses (s : Radio) : Bool :=
  match s.bt.mode with
  | .cmd =>
    s.asks || s.starts textDiscovery && s.bt.buf 10 == 54 && decide (s.newDevices < maxScan) ||
      s.starts textBrsp && s.bt.buf 7 == 49 ||
      s.starts textGattDc && decide (s.state = .checkingNmx) &&
        s.bt.holds 19 (ascii "BF45E40ADE2A4BC8BBA0E5D6065F1B4B".toList) ||
      s.starts textGattDone && decide (s.state = .authorizingGm) ||
      s.starts textDisconnect || s.starts textDone
  | .data => s.bt.holds s.bt.leading (ascii textDisconnect) || decide (s.bt.dataId ≠ 0)

theorem awaited_event (r : Radio × Event) : (awaited r).2 = r.2 := by
  unfold awaited
  split_ifs <;> rfl

theorem spent_event {r : Radio × Event} (h : r.1.Spent) :
    (awaited (doneLine (disconnectLine (gattDone (gattDc r))))).2 = r.2 := by
  rw [gattDc_skip h.gattDc, gattDone_skip h.gattDone, disconnectLine_skip h.disconnect,
    doneLine_skip h.done]
  exact awaited_event r

theorem false_of_and {a b : Bool} (h : (a && b) = false) (ha : a = true) : b = false := by
  rw [ha, Bool.true_and] at h
  exact h

/-- A line for a characteristic that completes no connection. -/
theorem gatt_null {s : Radio} (hcmd : s.bt.mode = .cmd) (hasks : s.asks = false)
    (hdc : (s.starts textGattDc && decide (s.state = .checkingNmx) &&
      s.bt.holds 19 (ascii "BF45E40ADE2A4BC8BBA0E5D6065F1B4B".toList)) = false)
    (hdone : (s.starts textGattDone && decide (s.state = .authorizingGm)) = false)
    (hgone : ¬ s.starts textDisconnect = true) (hover : ¬ s.starts textDone = true) :
    (awaited (doneLine (disconnectLine (gattDone (gattDc (s, .null)))))).2 = .null := by
  by_cases hstarts : s.starts textGattDc = true
  · have hnmx : ¬ (s.state = .checkingNmx ∧
        s.bt.holds 19 (ascii "BF45E40ADE2A4BC8BBA0E5D6065F1B4B".toList) = true) := by
      intro hboth
      rw [hstarts, hboth.1, hboth.2] at hdc
      exact absurd hdc (by decide)
    have hr : ∃ st, gattDc (s, .null) = ({ s with state := st }, .null) := by
      unfold gattDc
      rw [if_pos hstarts, if_neg hnmx]
      split_ifs
      · exact ⟨.authorizingGm, rfl⟩
      · exact ⟨s.state, rfl⟩
    rcases hr with ⟨st, hr⟩
    rw [hr, gattDone_skip (starts_differ (s := s) rfl hstarts 6 rfl rfl (by decide)),
      disconnectLine_skip (starts_differ (s := s) rfl hstarts 0 rfl rfl (by decide)),
      doneLine_skip (starts_differ (s := s) rfl hstarts 0 rfl rfl (by decide))]
    exact awaited_event _
  · rw [gattDc_skip hstarts]
    by_cases hlast : s.starts textGattDone = true
    · have hauth : ¬ s.state = .authorizingGm := by
        intro hstate
        exact absurd (false_of_and hdone hlast) (by rw [hstate]; decide)
      have hgm : ¬ s.state = .checkingGm := by
        intro hstate
        unfold asks at hasks
        rw [Bool.or_eq_false_iff] at hasks
        exact absurd (false_of_and hasks.2 hlast) (by rw [hstate]; decide)
      -- What is left of the states gives a command that waits for nothing, or none.
      have hr : ∃ u : Radio, gattDone (s, .null) = (u, .null) ∧ u.bt.buf = s.bt.buf := by
        unfold gattDone
        rw [if_pos hlast]
        cases hstate : s.state with
        | checkingNmx =>
            let t : Radio := { s with state := .checkingGm }
            let text := "ATGDCU,0,0000000200001000800000805F9B34FB\r".toList
            obtain ⟨hbt, -⟩ := sendCMD_books (s := t) hcmd text
            exact ⟨t.sendCMD text, rfl, congrArg Bt.buf hbt⟩
        | checkingGm => exact absurd hstate hgm
        | authorizingGm => exact absurd hstate hauth
        | sleep | idle | scan | connected | connectedNmx | connectedGm =>
            exact ⟨s, rfl, rfl⟩
      rcases hr with ⟨u, hr, hbuf⟩
      rw [hr, disconnectLine_skip (starts_differ hbuf hlast 0 rfl rfl (by decide)),
        doneLine_skip (starts_differ hbuf hlast 0 rfl rfl (by decide))]
      exact awaited_event _
    · rw [gattDone_skip hlast, disconnectLine_skip hgone, doneLine_skip hover]
      exact awaited_event _

/-- A line that rouses nothing makes `task` return no event. -/
theorem commandLine_null {s : Radio} (hcmd : s.bt.mode = .cmd) (h : s.rouses = false) :
    s.commandLine.2 = .null := by
  unfold rouses at h
  simp only [hcmd, Bool.or_eq_false_iff] at h
  obtain ⟨⟨⟨⟨⟨⟨hasks, hdiscovery⟩, hbrsp⟩, hdc⟩, hdone⟩, hgone⟩, hover⟩ := h
  rw [← Bool.not_eq_true] at hgone hover
  have hfound : discovery (s, .null) = (s, .null) := by
    unfold discovery
    rw [if_neg]
    rw [hdiscovery]
    exact Bool.false_ne_true
  unfold commandLine
  rw [hfound]
  by_cases hconnect : s.starts textConnect = true
  · have hscan : ¬ s.state = .scan := by
      intro hstate
      unfold asks at hasks
      rw [Bool.or_eq_false_iff] at hasks
      exact absurd (false_of_and hasks.1 hconnect) (by rw [hstate]; decide)
    have hr : connectLine (s, .null) =
        ({ s.heeds .connect with devices := 0, state := .connected }, .null) := by
      unfold connectLine
      rw [if_pos hconnect, if_neg hscan]
    rw [hr, brspLine_skip (starts_differ (s := s) rfl hconnect 0 rfl rfl (by decide))]
    exact spent_event (spent_connect rfl hconnect)
  · rw [connectLine_skip hconnect]
    by_cases hline : s.starts textBrsp = true
    · let t : Radio := { (s.setMode .cmd).heeds (.brsp false) with state := .checkingNmx }
      let text := "ATGDCU,0,BF45E40ADE2A4BC8BBA0E5D6065F1B4B\r".toList
      have hr : brspLine (s, .null) = (t.sendCMD text, .null) := by
        unfold brspLine
        rw [if_pos hline, if_neg]
        rw [false_of_and hbrsp hline]
        exact Bool.false_ne_true
      obtain ⟨hbt, -⟩ := sendCMD_books (s := t) rfl text
      rw [hr]
      exact spent_event (spent_brsp (congrArg Bt.buf hbt) hline)
    · rw [brspLine_skip hline]
      exact gatt_null hcmd hasks hdc hdone hgone hover

/-- A reading that rouses nothing makes `task` return no event. -/
theorem task_null {s : Radio} (hpresent : s.bt.present = true) (hfree : s.bt.eventBuf = .null)
    (h : s.read.2 = 0 ∨ s.read.1.rouses = false) : s.task.2 = .null := by
  have hne : ¬ s.bt.present = false := by
    rw [hpresent]
    exact Bool.noConfusion
  unfold task
  rw [if_neg hne, if_neg (not_not_intro hfree)]
  show (s.read.1.handle s.read.2).2 = .null
  unfold handle
  by_cases hlen : s.read.2 = 0
  · rw [if_pos hlen]
  · rw [if_neg hlen]
    have hrouses := h.resolve_left hlen
    cases hmode : s.read.1.bt.mode with
    | cmd =>
        rw [if_pos rfl]
        exact commandLine_null hmode hrouses
    | data =>
        rw [if_neg (by simp only [reduceCtorEq, not_false_eq_true])]
        unfold rouses at hrouses
        simp only [hmode, Bool.or_eq_false_iff, decide_eq_false_iff_not] at hrouses
        unfold packet
        rw [if_neg (by rw [hrouses.1]; exact Bool.false_ne_true), if_neg hrouses.2]

/-- The next call of `task` does not overwrite an event about the connection. -/
def Spares (s : Radio) (e : Event) : Prop :=
  e.links = true → s.bt.eventBuf = .null ∧ (s.read.2 = 0 ∨ s.read.1.rouses = false)

/-- The calls of `task` that a wait makes heed what they read, and spare the event that
    is kept. -/
def WaitHeeds : Nat → Radio → Event → Prop
  | 0, _, _ => True
  | n + 1, s, e => s.Heeds ∧ s.Spares e ∧
    (s.task.1.waitEventStatus ≠ 2 →
      WaitHeeds n s.task.1 (if s.task.2 = .null then e else s.task.1.event))

/-- A wait accounts for every line it reads and every event it comes by: what is due is
    told, or kept by the driver or by the wait. -/
structure Waits (s : Radio) (e : Event) : Prop where
  heeded : s.heard = s.heeded
  due : s.due = s.told ++ (kept s.bt.eventBuf ++ kept e)
  single : e.links = true → s.bt.eventBuf = .null
  present : s.bt.present = true

theorem kept_null : kept .null = [] := rfl

theorem kept_of_not {e : Event} (h : ¬ e.links = true) : kept e = [] := if_neg h

/-- One call of `task` in a wait. -/
theorem round_waits {s : Radio} {e : Event} (h : s.Waits e) (hheeds : s.Heeds)
    (hspares : s.Spares e) :
    s.task.1.Waits (if s.task.2 = .null then e else s.task.1.event) ∧
      s.task.1.bt.eventBuf = .null := by
  have haccounts := task_credit h.present hheeds
  refine ⟨⟨haccounts.heeded h.heeded, ?_, fun _ => haccounts.free,
    haccounts.present.trans h.present⟩, haccounts.free⟩
  rw [haccounts.free, kept_null, List.nil_append, haccounts.told]
  by_cases hlinks : e.links = true
  · -- The event that is kept stays.
    obtain ⟨hfree, hquiet⟩ := hspares hlinks
    have hnull := task_null h.present hfree hquiet
    rw [if_pos hnull, haccounts.due hfree, hnull, h.due, hfree, kept_null, List.nil_append,
      List.append_nil]
  · have hdue : s.due = s.told ++ kept s.bt.eventBuf := by
      rw [h.due, kept_of_not hlinks, List.append_nil]
    have hnew : s.task.1.due = s.told ++ kept s.task.2 := by
      by_cases hfree : s.bt.eventBuf = .null
      · rw [haccounts.due hfree, hdue, hfree, kept_null, List.append_nil]
      · obtain ⟨hsame, hevent⟩ := haccounts.kept hfree
        rw [hsame, hdue, hevent]
    rw [hnew]
    by_cases hnull : s.task.2 = .null
    · rw [if_pos hnull, hnull, kept_of_not hlinks]
      rfl
    · rw [if_neg hnull, haccounts.event]

/-- A wait of some calls leaves what it keeps for the next call of `task`. -/
theorem awaitLine_waits (n : Nat) {s : Radio} {e : Event} (h : s.Waits e)
    (hn : n = 0 → s.bt.eventBuf = .null) (hheeds : WaitHeeds n s e) :
    (awaitLine n s e).1.Lossless ∧ (awaitLine n s e).1.bt.present = true := by
  -- An event that is left takes the place of none.
  have hleave : ∀ {t : Radio} {e : Event}, t.Waits e → t.bt.eventBuf = .null →
      (t.leaveEvent e).Lossless := by
    intro t e ht hfree
    refine ⟨ht.heeded, ?_⟩
    show t.due = t.told ++ kept e
    rw [ht.due, hfree, kept_null, List.nil_append]
  induction n generalizing s e with
  | zero => exact ⟨hleave h (hn rfl), h.present⟩
  | succ n ih =>
      obtain ⟨htask, hspares, hrest⟩ := hheeds
      obtain ⟨hwaits, hfree⟩ := round_waits h htask hspares
      rw [awaitLine]
      by_cases hfound : s.task.1.waitEventStatus = 2
      · rw [if_pos hfound]
        exact ⟨hleave hwaits hfree, hwaits.present⟩
      · rw [if_neg hfound]
        exact ih hwaits (fun _ => hfree) (hrest hfound)

/-! ### Runs -/

/-- The readings of a call bring a line about the connection only where `task` heeds
    it, and no wait overwrites an event about it. -/
def Attended (s : Radio) (l : Label) : Prop :=
  (s.meets l).bt.present = true →
    match l.request with
    | .task => (s.meets l).Heeds
    | .waitEvent text =>
      WaitHeeds 1000 { s.meets l with waitEventString := text, waitEventStatus := 1 } .null
    | _ => (s.meets l).Silent

/-- The driver has lost nothing, and takes itself for connected only to a module. -/
structure Sound (s : Radio) : Prop where
  lossless : s.Lossless
  absent : s.bt.present = false → s.state.linked = false

/-- A call without a module does nothing. -/
theorem call_absent {s : Radio} (hpresent : s.bt.present = false)
    (hlinked : s.state.linked = false) (request : Request) : s.call request = s := by
  cases request with
  | scan => simp only [call, scan, if_pos hpresent]
  | cancel => simp only [call, cancel, unlinked, if_pos hpresent]
  | cancelScan => simp only [call, cancelScan, unlinked, if_pos hpresent]
  | connect addr => simp only [call, connect, if_pos hpresent]
  | disconnect => simp only [call, disconnect, if_pos hpresent]
  | advertise => simp only [call, advertise, unlinked, if_pos hpresent]
  | sleep => simp only [call, sleep, if_pos hpresent]
  | version => simp only [call, version, if_pos hpresent]
  | dataMode => simp only [call, dataMode, if_pos hpresent]
  | cmdMode => simp only [call, cmdMode, if_pos hpresent]
  | sendCMD text => simp only [call, sendCMD, if_pos hpresent]
  | task =>
      simp only [call, task, if_pos hpresent, hlinked, Bool.false_eq_true, if_false, tell,
        Event.links]
  | waitEvent text => simp only [call, waitEvent, if_pos hpresent]

/-- What a command in silence leaves as it was stays sound. -/
theorem Undisturbed.sound {s t : Radio} (h : s.Undisturbed t) (hs : s.Lossless)
    (hpresent : s.bt.present = true) : t.Sound := by
  refine ⟨⟨?_, ?_⟩, fun hno => ?_⟩
  · rw [h.heard, h.heeded, hs.heeded]
  · rw [h.due, h.told, h.keeps, hs.told]
  · rw [h.present, hpresent] at hno
    exact absurd hno Bool.noConfusion

/-- An attended call loses nothing. -/
theorem step_sound {s t : Radio} (l : Label) (h : s.Sound) (hattended : s.Attended l)
    (hstep : s.step l = some t) : t.Sound := by
  obtain rfl := Option.some.inj hstep
  have hmeets : (s.meets l).Lossless := ⟨h.lossless.heeded, h.lossless.told⟩
  by_cases hpresent : (s.meets l).bt.present = true
  · have hcond := hattended hpresent
    cases hrequest : l.request with
    | task =>
        rw [hrequest] at hcond
        have haccounts := task_credit hpresent hcond
        have hdue : (s.meets l).task.1.due = (s.meets l).told ++ kept (s.meets l).task.2 := by
          by_cases hfree : (s.meets l).bt.eventBuf = .null
          · rw [haccounts.due hfree, hmeets.told, hfree, kept_null, List.append_nil]
          · obtain ⟨hsame, hevent⟩ := haccounts.kept hfree
            rw [hsame, hmeets.told, hevent]
        have htell : (tell (s.meets l).task).told =
            (s.meets l).told ++ kept (s.meets l).task.2 := by
          unfold tell kept
          split_ifs
          · exact congrArg (· ++ [(s.meets l).task.2]) haccounts.told
          · exact haccounts.told.trans (List.append_nil _).symm
        have hsame : (tell (s.meets l).task).heard = (s.meets l).task.1.heard ∧
            (tell (s.meets l).task).heeded = (s.meets l).task.1.heeded ∧
            (tell (s.meets l).task).due = (s.meets l).task.1.due ∧
            (tell (s.meets l).task).bt = (s.meets l).task.1.bt := by
          unfold tell
          split_ifs <;> exact ⟨rfl, rfl, rfl, rfl⟩
        obtain ⟨hheard, hheeded, hdues, hbt⟩ := hsame
        refine ⟨⟨?_, ?_⟩, fun hno => ?_⟩
        · exact hheard.trans ((haccounts.heeded hmeets.heeded).trans hheeded.symm)
        · show (tell (s.meets l).task).due =
            (tell (s.meets l).task).told ++ kept (tell (s.meets l).task).bt.eventBuf
          rw [hdues, hbt, haccounts.free, htell, kept_null, List.append_nil, hdue]
        · rw [show ((s.meets l).call .task).bt = (s.meets l).task.1.bt from hbt,
            haccounts.present, hpresent] at hno
          exact absurd hno Bool.noConfusion
    | waitEvent text =>
        rw [hrequest] at hcond
        have hne : ¬ (s.meets l).bt.present = false := by
          rw [hpresent]
          exact Bool.noConfusion
        have hstart : ({ s.meets l with
            waitEventString := text, waitEventStatus := 1 } : Radio).Waits .null :=
          ⟨hmeets.heeded, hmeets.told.trans (by rw [kept_null, List.append_nil]),
            fun hno => absurd hno Bool.false_ne_true, hpresent⟩
        obtain ⟨hlossless, hstill⟩ := awaitLine_waits 1000 hstart
          (fun hno => absurd hno (by decide)) hcond
        have hcall : (s.meets l).call (.waitEvent text) = (awaitLine 1000
            { s.meets l with waitEventString := text, waitEventStatus := 1 } .null).1 := by
          simp only [call, waitEvent, if_neg hne]
        rw [hcall]
        exact ⟨hlossless, fun hno => absurd (hstill.symm.trans hno) Bool.noConfusion⟩
    | scan =>
        rw [hrequest] at hcond
        exact (Undisturbed.refl hcond).scan.sound hmeets hpresent
    | cancel =>
        rw [hrequest] at hcond
        exact (Undisturbed.refl hcond).cancel.sound hmeets hpresent
    | cancelScan =>
        rw [hrequest] at hcond
        exact (Undisturbed.refl hcond).cancelScan.sound hmeets hpresent
    | connect addr =>
        rw [hrequest] at hcond
        exact ((Undisturbed.refl hcond).connect addr).sound hmeets hpresent
    | disconnect =>
        rw [hrequest] at hcond
        exact (Undisturbed.refl hcond).disconnect.sound hmeets hpresent
    | advertise =>
        rw [hrequest] at hcond
        exact (Undisturbed.refl hcond).advertise.sound hmeets hpresent
    | sleep =>
        rw [hrequest] at hcond
        exact (Undisturbed.refl hcond).sleep.sound hmeets hpresent
    | version =>
        rw [hrequest] at hcond
        exact (Undisturbed.refl hcond).version.sound hmeets hpresent
    | dataMode =>
        rw [hrequest] at hcond
        exact (Undisturbed.refl hcond).dataMode.sound hmeets hpresent
    | cmdMode =>
        rw [hrequest] at hcond
        exact (Undisturbed.refl hcond).cmdMode.sound hmeets hpresent
    | sendCMD text =>
        rw [hrequest] at hcond
        exact ((Undisturbed.refl hcond).sendCMD text).sound hmeets hpresent
  · have habsent : (s.meets l).bt.present = false := by
      rw [← Bool.not_eq_true]
      exact hpresent
    rw [call_absent habsent (h.absent habsent)]
    exact ⟨hmeets, h.absent⟩

/-- A line that says that the other side takes packets. -/
def brspArrival : Arrival := arrival ['B', 'R', 'S', 'P', ',', '0', ',', '1']

end Radio

end Bluetooth

end TimelapsePlus
