import TimelapsePlus.Bluetooth.Peer
import TimelapsePlus.Bluetooth.RoundTrip
import TimelapsePlus.Lib.Replica

/-!
# Values Sent and Values Stored

A packet brings a value when it is sent under an id that a field of the `Remote` object
is kept for, and is as long as the field; the packets that say that a run goes on bring
theirs by their id alone. What it makes of the fields is one statement (`field_packet`),
and so is what a whole event makes of them (`event_field`).

On the other side, whatever a unit sends that is a value is what the unit shows at that
moment, be it asked for or watched. It takes care of the two ids for a run: both a
request and a change are answered with the id that says how the run is now.

A packet goes over the line as bytes, and one that fits the buffer is read as it was
sent (`read_packet`).

## Main definitions

* `Field.mirrors`: The fields that are copies.
* `brings`: What a packet makes of a field.
* `Peer.shown`, `Peer.Shows`: What a unit shows, and that it sends nothing else.
* `Remote.Call.Sane`: What a packet may ask for.
* `Cargo.Sound`: A packet that fits.
* `Peer.pending`: What has come and is yet to be handled.

## Theorems

* `Remote.field_packet`, `Remote.event_field`: The fields after a packet and an event.
* `Remote.packet_makes`, `Remote.event_calls`: The calls of either.
* `Peer.send_shows` and its like: What is sent is what is shown.
* `read_packet`: A packet is read as it was sent.
* `Peer.late_field`, `Peer.late_shows`: What `remote.event` stores and sends.
-/

namespace TimelapsePlus

namespace Bluetooth

/-! ### What a packet brings -/

/-- The fields that are copies of what the other unit shows. The programme is left out:
    its packet does not fit the buffer. -/
def Field.mirrors : Field → Bool
  | .running | .battery | .recording | .modeLiveView | .status | .model => true
  | _ => false

/-- The bytes of a field. -/
def Remote.field (s : Remote) (f : Field) : List UInt8 :=
  (List.range f.size).map fun i => s.mem (f.start + i)

/-- The payload of the packet that has been read. -/
def Bt.payload (b : Bt) : List UInt8 := (List.range b.dataSize).map fun i => b.buf (b.data + i)

/-- What a value is stored as. -/
def stored : Id → List UInt8 → List UInt8
  | .start, _ => [1]
  | .stop, _ => [0]
  | .video, payload | .liveView, payload => payload.map fun v => if v ≠ 0 then 1 else 0
  | _, payload => payload

/-- What a packet makes of a field, if it is a value for it. -/
def brings (f : Field) (id type : UInt8) (payload : List UInt8) : Option (List UInt8) :=
  match Id.decode id with
  | none => none
  | some i =>
    if names i (Kind.decode type) = some f ∧ (i.runs = true ∨ payload.length = f.size) then
      some (stored i payload)
    else none

/-- Of two fields one ends before the other begins. -/
theorem Field.apart {f g : Field} (hne : f ≠ g) :
    f.start + f.size ≤ g.start ∨ g.start + g.size ≤ f.start := by
  cases f <;> cases g <;> first | exact absurd rfl hne | exact of_decide_eq_true rfl

/-- No two fields share a byte. -/
theorem Field.holds_unique {f g : Field} {a : Nat} (hf : f.Holds a) (hg : g.Holds a) : f = g := by
  by_contra hne
  unfold Field.Holds at hf hg
  rcases Field.apart hne with h | h <;> omega

theorem Field.size_pos (f : Field) : 0 < f.size := by
  cases f <;> decide

namespace Remote

variable {b : Bt} {id : Id} {kind : Option Kind} {s t : Remote} {f : Field}

theorem field_congr (h : ∀ a, f.Holds a → t.mem a = s.mem a) : t.field f = s.field f :=
  List.map_congr_left fun i hi => h _ ⟨Nat.le_add_right _ _, by
    have := List.mem_range.mp hi
    omega⟩

/-- A byte that is stored in one field leaves the others. -/
theorem field_store_of_ne {g : Field} (hne : g ≠ f) (c : UInt8) :
    (s.store g c).field f = s.field f := by
  refine field_congr fun a ha => ?_
  have hother : a ≠ g.start := by
    intro heq
    have hfirst : g.Holds a := by
      rw [heq]
      exact ⟨Nat.le_refl _, Nat.lt_add_of_pos_right g.size_pos⟩
    exact hne (Field.holds_unique hfirst ha)
  exact Function.update_of_ne hother c s.mem

theorem field_store (hone : f.size = 1) (c : UInt8) : (s.store f c).field f = [c] := by
  unfold field store
  rw [hone]
  exact congrArg (· :: []) (Function.update_self f.start c s.mem)

/-- A payload as long as the field becomes the field. -/
theorem field_copy (hsize : b.dataSize = f.size) : (s.copy b f).field f = b.payload := by
  unfold field Bt.payload copy
  rw [← hsize]
  refine List.map_congr_left fun i hi => ?_
  have hlt := List.mem_range.mp hi
  simp only [memcpy]
  rw [if_pos (by omega), Nat.add_sub_cancel_left]

theorem field_copySized :
    (s.copySized b f).field f = if b.dataSize = f.size then b.payload else s.field f := by
  unfold copySized
  split
  · next hsize => exact field_copy hsize
  · rfl

theorem payload_one (hone : b.dataSize = 1) : b.payload = [b.buf b.data] := by
  unfold Bt.payload
  rw [hone]
  rfl

theorem field_flag (hone : f.size = 1) : (s.flag b f).field f =
    if b.dataSize = 1 then b.payload.map fun v => if v ≠ 0 then 1 else 0 else s.field f := by
  unfold flag withByte
  split
  · next hsize =>
      rw [field_store hone, payload_one hsize, hsize]
      rfl
  · rfl

theorem field_call (c : Call) : (s.call c).field f = s.field f := rfl

/-- A packet makes a field what it brings for it, and leaves it otherwise. -/
theorem field_packet (hf : f.mirrors = true)
    (hfits : (id = .battery ∨ id = .model) → kind = some .send → b.dataSize = 1) :
    (s.packet b id kind).field f =
      if names id kind = some f ∧ (id.runs = true ∨ b.dataSize = f.size) then stored id b.payload
      else s.field f := by
  by_cases hnames : names id kind = some f
  · -- The packet is a value for the field.
    cases id <;> rcases kind with _ | _ | _ | _ | _ | _ <;>
      simp only [names, Option.some.injEq, reduceCtorEq] at hnames
    all_goals subst hnames
    · simp only [packet, field_copySized, names, Id.runs, stored, true_and, Bool.false_eq_true,
        false_or]
    · exact absurd hf Bool.false_ne_true
    · simp only [packet, field_store (f := .running) rfl, names, Id.runs, stored, true_and, true_or,
        if_true]
    · simp only [packet, field_store (f := .running) rfl, names, Id.runs, stored, true_and, true_or,
        if_true]
    · have hone : b.dataSize = Field.battery.size := hfits (Or.inl rfl) rfl
      simp only [packet, field_copy hone, names, Id.runs, stored, true_and, hone, or_true, if_true]
    · have hone : b.dataSize = Field.model.size := hfits (Or.inr rfl) rfl
      simp only [packet, field_copy hone, names, Id.runs, stored, true_and, hone, or_true, if_true]
    · have hsize : Field.recording.size = 1 := rfl
      simp only [packet, field_flag hsize, names, Id.runs, stored, true_and, Bool.false_eq_true,
        false_or, hsize]
    · have hsize : Field.modeLiveView.size = 1 := rfl
      simp only [packet, field_flag hsize, names, Id.runs, stored, true_and, Bool.false_eq_true,
        false_or, hsize]
  · rw [if_neg fun h => hnames h.1]
    refine field_congr fun a ha => (packet_addressed s b id kind hfits).field a ?_ ?_
    · intro g hg hholds
      rw [Field.holds_unique ha hholds] at hnames
      exact hnames hg
    · intro heq
      have hactive : Field.requestActive.Holds a := by
        rw [heq]
        exact ⟨Nat.le_refl _, Nat.lt_succ_self _⟩
      rw [Field.holds_unique ha hactive] at hf
      exact Bool.false_ne_true hf

end Remote

/-! ### What a unit shows and sends -/

theorem Kind.decode_code (kind : Kind) : Kind.decode kind.code = some kind := by
  cases kind <;> rfl

theorem Id.decode_code (id : Id) : Id.decode id.code = some id := by
  cases id <;> rfl

/-- Only what is sent brings a value. -/
theorem names_kind {id : Id} {kind : Option Kind} {f : Field} (h : names id kind = some f) :
    kind = some .send := by
  by_contra hno
  have hnone : names id kind = none := by
    rcases kind with _ | _ | _ | _ | _ | _ <;> cases id <;> first | rfl | exact absurd rfl hno
  exact Option.some_ne_none f (h.symm.trans hnone)

/-- What something underway makes of a field of the other unit. -/
def Cargo.carried (f : Field) : Cargo → Option (List UInt8)
  | .packet id type payload => brings f id type payload
  | _ => none

/-- A request, a setting or a watch brings none. -/
theorem brings_kind {f : Field} {id : UInt8} {kind : Kind} {payload : List UInt8}
    (hkind : kind ≠ .send) : brings f id kind.code payload = none := by
  unfold brings
  cases Id.decode id with
  | none => rfl
  | some i =>
      refine if_neg fun h => hkind ?_
      have hsend := names_kind h.1
      rw [Kind.decode_code] at hsend
      exact Option.some.inj hsend

namespace Peer

variable {p q : Peer} {f : Field}

/-- A truth value as the other unit stores it. -/
def flagged (bytes : List UInt8) : List UInt8 := bytes.map fun v => if v ≠ 0 then 1 else 0

/-- What a unit shows, as the other one would store it. -/
def shown (p : Peer) : Field → List UInt8
  | .running => [if p.running then 1 else 0]
  | .battery => p.value .batteryPercent
  | .recording => flagged (p.value .recording)
  | .modeLiveView => flagged (p.value .modeLiveView)
  | .status => p.value .status
  | .model => [modelTlp]
  | _ => []

/-- The watched values lie before the `Remote` object. -/
theorem value_congr (h : q.vars = p.vars) (item : Item) : q.value item = p.value item := by
  refine List.map_congr_left fun x hx => ?_
  have hin : item.addr + x < remoteBase := by
    have hlt := List.mem_range.mp hx
    have hroom : item.addr + item.size.toNat ≤ remoteBase := by
      cases item <;> exact of_decide_eq_true rfl
    omega
  unfold memory
  rw [if_pos hin, if_pos hin, h]

theorem running_congr (h : q.vars = p.vars) : q.running = p.running := by
  unfold running
  rw [h]

theorem shown_congr (h : q.vars = p.vars) (f : Field) : q.shown f = p.shown f := by
  cases f <;> simp only [shown, value_congr h, running_congr h]

/-- Whatever of these is a value for a field, is what the unit shows. -/
def Shows (p : Peer) (f : Field) (cs : List Cargo) : Prop :=
  ∀ c ∈ cs, ∀ v, c.carried f = some v → v = p.shown f

theorem Shows.nil : p.Shows f [] := fun _ hc => absurd hc List.not_mem_nil

theorem Shows.append {cs ds : List Cargo} (hc : p.Shows f cs) (hd : p.Shows f ds) :
    p.Shows f (cs ++ ds) := fun c h => (List.mem_append.mp h).elim (hc c) (hd c)

theorem Shows.flatMap {α : Type} {as : List α} {send : α → List Cargo}
    (h : ∀ a ∈ as, p.Shows f (send a)) : p.Shows f (as.flatMap send) := by
  intro c hc
  rcases List.mem_flatMap.mp hc with ⟨a, ha, hca⟩
  exact h a ha c hca

theorem Shows.congr {cs : List Cargo} (hvars : q.vars = p.vars) (h : p.Shows f cs) :
    q.Shows f cs := fun c hc v hv => (h c hc v hv).trans (shown_congr hvars f).symm

/-- What brings nothing shows nothing wrong. -/
theorem sendDATA_quiet {id type : UInt8} {payload : List UInt8}
    (h : brings f id type payload = none) : p.Shows f (p.sendDATA id type payload) := by
  unfold sendDATA
  split
  · intro c hc v hv
    rw [List.mem_singleton.mp hc] at hv
    exact absurd (hv.symm.trans h) (Option.some_ne_none v)
  · exact .nil

/-- Of the two ids for a run the right one is sent. -/
def Right (p : Peer) (id : UInt8) : Prop :=
  ∀ i, Id.decode id = some i → i.runs = true → i = if p.running then .start else .stop

/-- What is sent for an id is what the unit shows. -/
theorem payload_shown {i : Id} {v : List UInt8} (hf : f.mirrors = true)
    (hright : i.runs = true → i = if p.running then .start else .stop)
    (hnames : names i (some .send) = some f) (hv : stored i (p.payload (some i)) = v) :
    v = p.shown f := by
  cases i <;> simp only [names, Option.some.injEq, reduceCtorEq] at hnames
  all_goals subst hnames
  · exact hv.symm
  · exact absurd hf Bool.false_ne_true
  · have hrun : p.running = true := by
      by_contra hnot
      rw [if_neg hnot] at hright
      exact absurd (hright rfl) Id.noConfusion
    unfold shown
    rw [if_pos hrun]
    exact hv.symm
  · have hrun : ¬ p.running = true := by
      intro hnot
      rw [if_pos hnot] at hright
      exact absurd (hright rfl) Id.noConfusion
    unfold shown
    rw [if_neg hrun]
    exact hv.symm
  · exact hv.symm
  · exact hv.symm
  · exact hv.symm
  · exact hv.symm

theorem send_shows {id : UInt8} {kind : Kind} (hf : f.mirrors = true)
    (hright : kind = .send → p.Right id) : p.Shows f (p.send id kind) := by
  by_cases hkind : kind = .send
  · unfold send sendDATA
    split
    · intro c hc v hv
      rw [List.mem_singleton.mp hc] at hv
      cases hid : Id.decode id with
      | none => simp only [Cargo.carried, brings, hid, reduceCtorEq] at hv
      | some i =>
          simp only [Cargo.carried, brings, hid, Option.ite_none_right_eq_some,
            Option.some.injEq] at hv
          rw [hkind, Kind.decode_code] at hv
          exact payload_shown hf (hright hkind i hid) hv.1.1 hv.2
    · exact .nil
  · exact sendDATA_quiet (brings_kind hkind)

theorem right_running : p.Right (if p.running then Id.start.code else Id.stop.code) := by
  intro i hi _
  cases hrun : p.running with
  | true =>
      rw [hrun, if_pos rfl, Id.decode_code] at hi
      exact (Option.some.inj hi).symm
  | false =>
      rw [hrun, if_neg Bool.false_ne_true, Id.decode_code] at hi
      exact (Option.some.inj hi).symm

theorem right_of_not_runs {id : UInt8} (h : ∀ i, Id.decode id = some i → i.runs = false) :
    p.Right id := fun i hi hruns => absurd (hruns.symm.trans (h i hi)) Bool.noConfusion

/-- A change that is told is what the unit shows. -/
theorem remoteNotify_shows (hf : f.mirrors = true) (id : UInt8) :
    p.Shows f (p.remoteNotify id) := by
  unfold remoteNotify
  split
  · exact send_shows hf fun _ => right_running
  · exact send_shows hf fun _ => right_running
  · next hstart hstop =>
      refine send_shows hf fun _ => right_of_not_runs fun i hi => ?_
      cases i <;> first | rfl | exact absurd hi hstart | exact absurd hi hstop

theorem notified_shows (hf : f.mirrors = true) (c : Listener × UInt8) :
    p.Shows f (p.notified c) := by
  rcases c with ⟨_ | _ | _, id⟩
  · exact .nil
  · exact .nil
  · exact remoteNotify_shows hf id

/-- No value is sent because of a page of the menu. -/
theorem ask_shows (a : Ask) (hf : f.mirrors = true) : p.Shows f (p.ask a) := by
  cases a with
  | request id => exact sendDATA_quiet (brings_kind Kind.noConfusion)
  | watch id => exact sendDATA_quiet (brings_kind Kind.noConfusion)
  | unWatch id => exact sendDATA_quiet (brings_kind Kind.noConfusion)
  | set id => exact send_shows hf fun h => Kind.noConfusion h
  | setValue id v => exact sendDATA_quiet (brings_kind Kind.noConfusion)

end Peer

/-- Under which id a value is watched. -/
def Item.id : Item → Id
  | .status => .status
  | .batteryPercent => .battery
  | .running => .start
  | .recording => .video
  | .modeLiveView => .liveView

/-- Of the two ids for a run a call sends the right one, and each value is watched under
    its own. -/
def Remote.Call.Sane (running : Bool) : Remote.Call → Prop
  | .send id => id.runs = true → id = if running then .start else .stop
  | .watch id item => id = item.id
  | .request _ | .unWatchAll => False
  | _ => True

namespace Remote

/-- There is one call more, if any. -/
def Makes (s t : Remote) : Prop :=
  t.calls = s.calls ∨ ∃ c : Call, c.Sane s.timerRunning ∧ t.calls = s.calls ++ [c]

theorem Makes.call {s : Remote} {c : Call} (h : c.Sane s.timerRunning) : s.Makes (s.call c) :=
  Or.inr ⟨c, h, rfl⟩

theorem Makes.withByte {s : Remote} {b : Bt} {go : UInt8 → Remote} (h : ∀ v, s.Makes (go v)) :
    s.Makes (s.withByte b go) := by
  unfold Remote.withByte
  split
  · exact h _
  · exact Or.inl rfl

theorem Makes.copySized (s : Remote) (b : Bt) (f : Field) : s.Makes (s.copySized b f) := by
  unfold Remote.copySized
  split <;> exact Or.inl rfl

theorem Makes.setting {s : Remote} {b : Bt} {id : Id} {set : UInt8 → Call} (hid : id.runs = false)
    (hset : ∀ v, (set v).Sane s.timerRunning) (kind : Option Kind) :
    s.Makes (s.setting b id set kind) := by
  rcases kind with _ | _ | _ | _ | _ | _
  · exact Or.inl rfl
  · exact Or.inl rfl
  · exact .call fun h => absurd (h.symm.trans hid) Bool.noConfusion
  · exact .withByte fun v => .call (hset v)
  · exact Or.inl rfl
  · exact Or.inl rfl

/-- A packet makes no more than one call. -/
theorem packet_makes (s : Remote) (b : Bt) (id : Id) (kind : Option Kind) :
    s.Makes (s.packet b id kind) := by
  have hsend : ∀ {i : Id}, i.runs = false → s.Makes (s.call (.send i)) := fun hi =>
    .call fun h => absurd (h.symm.trans hi) Bool.noConfusion
  have hrunning : s.Makes s.sendRunning := .call fun _ => rfl
  have hplain : ∀ {c : Call}, c.Sane s.timerRunning = True → s.Makes (s.call c) := fun hc =>
    .call (hc ▸ trivial)
  cases id with
  | status =>
      rcases kind with _ | _ | _ | _ | _ | _
      · exact Or.inl rfl
      · exact .copySized s b .status
      · exact hsend rfl
      · exact Or.inl rfl
      · exact .call rfl
      · exact hplain rfl
  | program =>
      rcases kind with _ | _ | _ | _ | _ | _
      · exact Or.inl rfl
      · exact .copySized s b .current
      · exact hsend rfl
      · unfold packet
        simp only
        split
        · exact Or.inr ⟨.refresh, trivial, rfl⟩
        · exact Or.inl rfl
      · exact Or.inl rfl
      · exact Or.inl rfl
  | start =>
      rcases kind with _ | _ | _ | _ | _ | _
      · exact Or.inl rfl
      · exact Or.inl rfl
      · exact hrunning
      · exact hplain rfl
      · exact .call rfl
      · exact hplain rfl
  | stop =>
      rcases kind with _ | _ | _ | _ | _ | _
      · exact Or.inl rfl
      · exact Or.inl rfl
      · exact hrunning
      · exact hplain rfl
      · exact .call rfl
      · exact hplain rfl
  | battery =>
      rcases kind with _ | _ | _ | _ | _ | _
      · exact Or.inl rfl
      · exact Or.inl rfl
      · exact hsend rfl
      · exact Or.inl rfl
      · exact .call rfl
      · exact hplain rfl
  | model =>
      rcases kind with _ | _ | _ | _ | _ | _
      · exact Or.inl rfl
      · exact Or.inl rfl
      · exact hsend rfl
      · exact Or.inl rfl
      · exact Or.inl rfl
      · exact Or.inl rfl
  | video =>
      rcases kind with _ | _ | _ | _ | _ | _
      · exact Or.inl rfl
      · exact .withByte fun _ => Or.inl rfl
      · exact hsend rfl
      · refine .withByte fun v => .call ?_
        split <;> trivial
      · exact .call rfl
      · exact hplain rfl
  | liveView =>
      rcases kind with _ | _ | _ | _ | _ | _
      · exact Or.inl rfl
      · exact .withByte fun _ => Or.inl rfl
      · exact hsend rfl
      · refine .withByte fun v => ?_
        split
        · exact hplain rfl
        · exact Or.inl rfl
      · exact .call rfl
      · exact hplain rfl
  | iso =>
      have hsane : ∀ v, (Call.setISO v).Sane s.timerRunning := fun _ => trivial
      exact .setting rfl hsane kind
  | aperture =>
      have hsane : ∀ v, (Call.setAperture v).Sane s.timerRunning := fun _ => trivial
      exact .setting rfl hsane kind
  | shutter =>
      have hsane : ∀ v, (Call.setShutter v).Sane s.timerRunning := fun _ => trivial
      exact .setting rfl hsane kind
  | bulbStart =>
      unfold packet
      simp only
      split
      · exact hplain rfl
      · exact Or.inl rfl
  | bulbEnd =>
      unfold packet
      simp only
      split
      · exact hplain rfl
      · exact Or.inl rfl
  | capture =>
      unfold packet
      simp only
      split
      · exact hplain rfl
      · exact Or.inl rfl
  | firmware =>
      unfold packet
      simp only
      split
      · exact hsend rfl
      · exact Or.inl rfl
  | protocolVersion =>
      unfold packet
      simp only
      split
      · exact hsend rfl
      · exact Or.inl rfl

end Remote

/-! ### What has come -/

theorem arriving_prompt (line : List UInt8) :
    arriving (List.replicate line.length 0) line = line := by
  induction line with
  | nil => rfl
  | cons c line ih =>
      rw [List.length_cons, List.replicate_succ, arriving, if_neg (Nat.not_lt_zero _), ih]

/-- A packet has no line end ahead of it. -/
theorem arrived_prompt (id type : UInt8) (payload : List UInt8) :
    arrived (List.replicate (packetBytes id type payload).length 0)
      (packetBytes id type payload) = packetBytes id type payload := by
  unfold packetBytes
  rw [List.length_cons, List.replicate_succ, arrived, if_neg (Nat.not_lt_zero _),
    if_neg (by decide), arriving_prompt]

theorem handed_all (bs : List UInt8) (n : Nat) (h : bs.length ≤ n) :
    handed (List.replicate n true) bs = bs := by
  induction bs generalizing n with
  | nil => cases n <;> rfl
  | cons b bs ih =>
      cases n with
      | zero => exact absurd h (Nat.not_succ_le_zero _)
      | succ n => rw [List.replicate_succ, handed, ih n (Nat.le_of_succ_le_succ h)]

/-- All of a packet goes over the line. -/
theorem Cargo.bytes_packet (id type : UInt8) (payload : List UInt8) :
    (Cargo.packet id type payload).bytes = packetBytes id type payload := by
  change handed (List.replicate (payload.length + 6) true) (packetBytes id type payload) = _
  refine handed_all _ _ ?_
  unfold packetBytes
  simp only [List.length_cons]
  omega

/-- A packet that is underway: it is named, it fits the buffer, and it is not about the
    programme; and the value of the battery or the model is one byte. -/
def Cargo.Sound : Cargo → Prop
  | .packet id type payload => id ≠ 0 ∧ 6 + payload.length ≤ bufSize ∧
      Id.decode id ≠ some .program ∧
      ((Id.decode id = some .battery ∨ Id.decode id = some .model) →
        Kind.decode type = some .send → payload.length = 1)
  | _ => False

/-- The driver has read the packet. -/
structure Bt.Has (b : Bt) (id type : UInt8) (payload : List UInt8) : Prop where
  id : b.dataId = id
  type : b.dataType = type
  payload : b.payload = payload

theorem Bt.payload_length (b : Bt) : b.payload.length = b.dataSize := by
  unfold Bt.payload
  rw [List.length_map, List.length_range]

/-- A packet that fits is read as it was sent. -/
theorem read_packet {b : Bt} {id type : UInt8} {payload : List UInt8} (hpresent : b.present = true)
    (hmode : b.mode = .data) (hid : id ≠ 0) (hfits : 6 + payload.length ≤ bufSize) :
    (read (List.replicate (packetBytes id type payload).length 0) (packetBytes id type payload)
      b).1.Has id type payload := by
  have hsmall : payload.length < 65536 := by
    unfold bufSize at hfits
    omega
  let p : Packet := ⟨id, type, payload, hid, hsmall⟩
  rcases read_feed (List.replicate p.bytes.length 0) p.bytes b hpresent hmode
    with ⟨t, htm, hts, -, hstate, -⟩
  have hprompt : arrived (List.replicate p.bytes.length 0) p.bytes = p.bytes :=
    arrived_prompt id type payload
  rw [hprompt] at hstate
  rcases feed_packet p t htm hts hfits with ⟨hrep, hdata⟩
  have hdone := hrep.terminated hdata 0
  change (read (List.replicate p.bytes.length 0) p.bytes b).1.Has id type payload
  rw [hstate]
  refine ⟨hdone.id, hdone.type, List.ext_getElem ?_ fun i hi hi' => ?_⟩
  · rw [Bt.payload_length]
    exact hdone.size
  · simp only [Bt.payload, List.getElem_map, List.getElem_range]
    exact hdone.payload i hi'

namespace Peer

variable {p : Peer} {f : Field}

/-- What has come and is yet to be handled. -/
def pending (p : Peer) (f : Field) : Option (List UInt8) :=
  if p.place = .late ∧ p.event = .data then brings f p.bt.dataId p.bt.dataType p.bt.payload
  else none

/-- A packet that comes is what the unit has to handle. -/
theorem hear_packet {id type : UInt8} {payload : List UInt8} (hpresent : p.bt.present = true)
    (hmode : p.bt.mode = .data) (hid : id ≠ 0) (hfits : 6 + payload.length ≤ bufSize) :
    (p.hear (some (.packet id type payload))).bt.Has id type payload ∧
      (p.hear (some (.packet id type payload))).event = .data := by
  have hread : (read (List.replicate (packetBytes id type payload).length 0)
      (packetBytes id type payload) p.bt).1.Has id type payload :=
    read_packet hpresent hmode hid hfits
  unfold hear
  simp only [Cargo.bytes_packet]
  refine ⟨hread, if_pos ?_⟩
  rw [hread.id]
  exact hid

/-- The bytes that come leave the rest of the unit alone. -/
theorem hear_keeps (p : Peer) (c : Option Cargo) : (p.hear c).remote = p.remote ∧
    (p.hear c).table = p.table ∧ (p.hear c).vars = p.vars ∧ (p.hear c).place = p.place ∧
    (p.hear c).bt.present = p.bt.present := by
  rcases c with _ | _ | _ | ⟨id, type, payload⟩
  · exact ⟨rfl, rfl, rfl, rfl, rfl⟩
  · exact ⟨rfl, rfl, rfl, rfl, rfl⟩
  · exact ⟨rfl, rfl, rfl, rfl, rfl⟩
  · exact ⟨rfl, rfl, rfl, rfl, (read_keeps _ _ p.bt).2.1⟩

end Peer

/-! ### An event -/

namespace Remote

variable {r : Radio} {s : Remote} {f : Field}

/-- An event makes a field what its packet brings for it. -/
theorem event_field (hf : f.mirrors = true) (hfits : r.event = .data → r.bt.Fits) :
    (event r s).2.field f =
    ((if r.event = .data then brings f r.bt.dataId r.bt.dataType r.bt.payload
      else none).getD (s.field f)) := by
  have hstore : ∀ (t : Remote) (g : Field) (c : UInt8), g.mirrors = false →
      (t.store g c).field f = t.field f := by
    intro t g c hg
    refine field_store_of_ne (fun heq => ?_) c
    rw [heq, hf] at hg
    exact Bool.noConfusion hg
  unfold event
  cases hevent : r.event with
  | disconnect =>
      simp only [reduceCtorEq, if_false, Option.getD_none]
      rw [hstore _ _ _ rfl, hstore _ _ _ rfl, hstore _ _ _ rfl, field_call]
  | connect =>
      simp only [reduceCtorEq, if_false, Option.getD_none]
      cases r.state with
      | connected =>
          simp only
          rw [hstore _ _ _ rfl, field_call, hstore _ _ _ rfl, hstore _ _ _ rfl]
      | connectedNmx =>
          simp only
          rw [hstore _ _ _ rfl, hstore _ _ _ rfl]
      | connectedGm =>
          simp only
          rw [hstore _ _ _ rfl, hstore _ _ _ rfl]
      | _ => exact hstore _ _ _ rfl
  | data =>
      simp only [if_true, brings]
      cases hid : Id.decode r.bt.dataId with
      | none => rfl
      | some id =>
          simp only
          rw [hstore _ _ _ rfl, field_packet hf, Bt.payload_length]
          · split
            · rfl
            · rfl
          · intro hor hsend
            have hone := hor.imp (fun h => hid.trans (congrArg some h)) fun h =>
              hid.trans (congrArg some h)
            exact hfits hevent hone hsend
  | null => exact hstore _ _ _ rfl
  | discovery => exact hstore _ _ _ rfl
  | scanComplete => exact hstore _ _ _ rfl

/-- The calls of an event: one that its packet asks for, the request for the model when
    there is a connection, or the end of all watches when it is gone. -/
def Heeds (r : Radio) (s : Remote) (c : Call) : Prop :=
  r.event = .data ∧ c.Sane s.timerRunning ∨ r.event = .connect ∧ c = .request .model ∨
    r.event = .disconnect ∧ c = .unWatchAll

/-- An event makes no more than one. -/
theorem event_calls (r : Radio) (s : Remote) (hs : s.calls = []) : (event r s).2.calls = [] ∨
    ∃ c, Heeds r s c ∧ (event r s).2.calls = [c] := by
  unfold event Heeds
  cases r.event with
  | disconnect =>
      refine Or.inr ⟨.unWatchAll, Or.inr (Or.inr ⟨rfl, rfl⟩), ?_⟩
      change s.calls ++ [.unWatchAll] = _
      rw [hs]
      rfl
  | connect =>
      cases r.state with
      | connected =>
          refine Or.inr ⟨.request .model, Or.inr (Or.inl ⟨rfl, rfl⟩), ?_⟩
          change s.calls ++ [.request .model] = _
          rw [hs]
          rfl
      | _ => exact Or.inl hs
  | data =>
      simp only
      cases Id.decode r.bt.dataId with
      | none => exact Or.inl hs
      | some id =>
          rcases packet_makes s r.bt id (Kind.decode r.bt.dataType) with hnone | ⟨c, hc, hcalls⟩
          · exact Or.inl (hnone.trans hs)
          · refine Or.inr ⟨c, Or.inl ⟨trivial, hc⟩, ?_⟩
            rw [hs] at hcalls
            exact hcalls
  | null => exact Or.inl hs
  | discovery => exact Or.inl hs
  | scanComplete => exact Or.inl hs

end Remote

/-! ### The parts of the main loop -/

namespace Peer

variable {p : Peer} {f : Field} {vars : Nat → UInt8}

/-- The unit once the values have changed. -/
def refreshed (p : Peer) (vars : Nat → UInt8) : Peer := { p with vars := vars, place := .menu }

/-- The unit once its `Remote` object has handled the event. -/
def handled (p : Peer) (vars : Nat → UInt8) : Peer :=
  { p.refreshed vars with
    event := (p.refreshed vars).heeded.1.event
    remote := (p.refreshed vars).heeded.2 }

theorem late_eq (p : Peer) (vars : Nat → UInt8) : p.late vars =
    if p.event = .null then (p.refreshed vars, [])
    else (p.handled vars).perform (p.refreshed vars).heeded.2.calls := rfl

theorem late_keeps (p : Peer) (vars : Nat → UInt8) : (p.late vars).1.vars = vars ∧
    (p.late vars).1.place = .menu ∧ (p.late vars).1.bt = p.bt ∧
    (p.late vars).1.state = p.state := by
  rw [late_eq]
  split <;> exact ⟨rfl, rfl, rfl, rfl⟩

/-- The call is one that the event makes. -/
def Makes (p : Peer) (vars : Nat → UInt8) (c : Remote.Call) : Prop :=
  Remote.Heeds (p.refreshed vars).toRadio
    { p.remote with timerRunning := (p.refreshed vars).running, calls := [] } c ∧
    (p.refreshed vars).heeded.2.calls = [c]

/-- An event makes no call, or one that is carried out. -/
theorem late_cases (p : Peer) (vars : Nat → UInt8) :
    p.event = .null ∧ p.late vars = (p.refreshed vars, []) ∨
    p.event ≠ .null ∧ (p.refreshed vars).heeded.2.calls = [] ∧
      p.late vars = (p.handled vars, []) ∨
    p.event ≠ .null ∧ ∃ c, p.Makes vars c ∧ p.late vars =
      ({ p.handled vars with table := (p.handled vars).tabled p.table c },
        (p.handled vars).served c) := by
  rw [late_eq]
  by_cases hnull : p.event = .null
  · rw [if_pos hnull]
    exact Or.inl ⟨hnull, rfl⟩
  · rw [if_neg hnull]
    right
    have hcalls : (p.refreshed vars).heeded.2.calls = [] ∨ ∃ c, Remote.Heeds
        (p.refreshed vars).toRadio
        { p.remote with timerRunning := (p.refreshed vars).running, calls := [] } c ∧
        (p.refreshed vars).heeded.2.calls = [c] := Remote.event_calls _ _ rfl
    rcases hcalls with hnone | ⟨c, hheeds, hone⟩
    · refine Or.inl ⟨hnull, hnone, ?_⟩
      rw [hnone]
      rfl
    · refine Or.inr ⟨hnull, c, ⟨hheeds, hone⟩, ?_⟩
      rw [hone]
      unfold perform
      rw [List.foldl_cons, List.foldl_nil, List.flatMap_singleton]
      rfl

/-- What has come is stored. -/
theorem late_field (hf : f.mirrors = true) (hplace : p.place = .late)
    (hfits : p.event = .data → p.bt.Fits) :
    (p.late vars).1.remote.field f = (p.pending f).getD (p.remote.field f) := by
  have hpending : p.pending f = if p.event = .data then
      brings f p.bt.dataId p.bt.dataType p.bt.payload else none := by
    unfold pending
    rw [hplace]
    simp only [true_and]
  rw [late_eq, hpending]
  by_cases hnull : p.event = .null
  · rw [if_pos hnull, hnull]
    rfl
  · rw [if_neg hnull]
    exact Remote.event_field (r := (p.refreshed vars).toRadio) hf hfits

theorem served_shows (hf : f.mirrors = true) {c : Remote.Call} (hc : p.Makes vars c) :
    (p.handled vars).Shows f ((p.handled vars).served c) := by
  cases c with
  | send id =>
      refine send_shows hf fun _ i hi hruns => ?_
      rw [Id.decode_code] at hi
      have hid : id = i := Option.some.inj hi
      rcases hc.1 with ⟨-, hsane⟩ | ⟨-, hother⟩ | ⟨-, hother⟩
      · rw [← hid]
        exact hsane (hid ▸ hruns)
      · exact Remote.Call.noConfusion hother
      · exact Remote.Call.noConfusion hother
  | request id => exact sendDATA_quiet (brings_kind Kind.noConfusion)
  | _ => exact .nil

/-- All that `remote.event` sends is what the unit shows. -/
theorem late_shows (hf : f.mirrors = true) : (p.late vars).1.Shows f (p.late vars).2 := by
  rcases p.late_cases vars with ⟨-, heq⟩ | ⟨-, -, heq⟩ | ⟨-, c, hmakes, heq⟩
  · rw [heq]
    exact .nil
  · rw [heq]
    exact .nil
  · rw [heq]
    exact (served_shows hf hmakes).congr rfl

/-- So is what `notify.task` sends. -/
theorem radio_shows (hf : f.mirrors = true) (c : Option Cargo) :
    (p.radio c).1.Shows f (p.radio c).2 :=
  (Shows.flatMap fun _ _ => notified_shows hf _).congr rfl

/-- The pages of the menu send no values. -/
theorem menu_shows (hf : f.mirrors = true) (asks : List Ask) :
    (p.menu vars asks).1.Shows f (p.menu vars asks).2 := by
  let q : Peer := { p with vars := vars, place := .radio }
  have hasks : q.Shows f (asks.flatMap q.ask) := Shows.flatMap fun a _ => ask_shows a hf
  have hvars : (p.menu vars asks).1.vars = q.vars := rfl
  exact hasks.congr hvars

/-- They leave the copies alone. -/
theorem menu_field (hf : f.mirrors = true) (asks : List Ask) :
    (p.menu vars asks).1.remote.field f = p.remote.field f := by
  have hone : ∀ (r : Remote) (a : Ask), (noteAsk r a).field f = r.field f := by
    intro r a
    cases a with
    | request id =>
        refine Remote.field_store_of_ne (fun heq => ?_) 1
        rw [← heq] at hf
        exact Bool.false_ne_true hf
    | _ => rfl
  change (asks.foldl noteAsk p.remote).field f = _
  generalize p.remote = r
  induction asks generalizing r with
  | nil => rfl
  | cons a asks ih => exact (ih (noteAsk r a)).trans (hone r a)

theorem radio_keeps (p : Peer) (c : Option Cargo) : (p.radio c).1.remote = p.remote ∧
    (p.radio c).1.vars = p.vars ∧ (p.radio c).1.place = .late ∧
    (p.radio c).1.bt = (p.hear c).bt ∧ (p.radio c).1.state = (p.hear c).state ∧
    (p.radio c).1.event = (p.hear c).event := by
  rcases p.hear_keeps c with ⟨hremote, -, hvars, -, -⟩
  exact ⟨hremote, hvars, rfl, rfl, rfl, rfl⟩

/-- What has come is yet to be handled. -/
theorem radio_pending {c : Option Cargo} (hpresent : p.bt.present = true)
    (hmode : ∀ id type payload, c = some (.packet id type payload) →
      (Cargo.packet id type payload).Sound ∧ p.bt.mode = .data) :
    (p.radio c).1.pending f = c.bind (Cargo.carried f) := by
  rcases p.radio_keeps c with ⟨-, -, hplace, hbt, -, hevent⟩
  unfold pending
  rw [hplace, hbt, hevent]
  rcases c with _ | _ | _ | ⟨id, type, payload⟩
  · rfl
  · rfl
  · rfl
  · rcases hmode id type payload rfl with ⟨hsound, hdata⟩
    rcases hear_packet hpresent hdata hsound.1 hsound.2.1 with ⟨hhas, hevent⟩
    rw [if_pos ⟨rfl, hevent⟩, hhas.id, hhas.type, hhas.payload]
    rfl

end Peer

end Bluetooth

end TimelapsePlus
