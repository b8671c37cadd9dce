import TimelapsePlus.Bluetooth.Driver

/-!
# Packets for the Remote Control

`Remote::event` takes the events of the driver. A packet has an id, which says what it
is about, and a type, which says what is to be done with that: its value is sent or
asked for, it is to be set, or to be watched.

The `Remote` object is a run of bytes here, its fields one after the other, and so is
the programme `timer.current`. A value is copied with `memcpy` as long as the packet
says it is, so a packet whose size nobody has looked at reaches the fields that follow.
What the timer, the camera, the menu and the list of watched values are asked to do is
kept as a list of calls.

Two things happen whatever the packet's size: every event that is known clears
`requestActive`, and the packets that say that a run has started or stopped have no
payload, so `running` is set from their id alone.

The sizes of `REMOTE_BATTERY` and `REMOTE_MODEL` are not looked at. `Fits` asks that
they are one byte.

## Main definitions

* `memcpy`: Copying bytes.
* `Id`, `Kind`: The ids and the types of the packets.
* `Field`: The fields of the `Remote` object, with their places.
* `Remote`, `Remote.Call`: The object, and what is asked of the others.
* `Remote.packet`, `Remote.event`: A packet, and an event.
* `names`: The field whose value a packet brings.
* `Remote.Addressed`: Nothing is touched but what the packet is about.
* `Bt.Taken`: What has been read is what has been received.
* `Remote.Minds`: What is asked of an event.

## Theorems

* `read_received`: The buffer holds the bytes that came last.
* `packet_addressed`: A packet, by its id and its type.
* `event_addressed`: An event.
* `start_sizeless`: `running` is written by a packet without a payload.
-/

namespace TimelapsePlus

namespace Bluetooth

/-- `memcpy`: the bytes at `dst` once `n` bytes from `src` are copied to where the
    destination starts. -/
def memcpy (dst : Nat → UInt8) (start : Nat) (src : Nat → UInt8) (n : Nat) : Nat → UInt8 :=
  fun a => if start ≤ a ∧ a < start + n then src (a - start) else dst a

/-- The ids of the packets that `event` knows. -/
inductive Id
  | status
  | program
  | start
  | stop
  | battery
  | bulbStart
  | bulbEnd
  | capture
  | model
  | firmware
  | protocolVersion
  | iso
  | aperture
  | shutter
  | video
  | liveView
deriving Repr, DecidableEq

/-- `REMOTE_STATUS` to `REMOTE_LIVEVIEW`. -/
def Id.code : Id → UInt8
  | .status => 1
  | .program => 2
  | .start => 3
  | .stop => 4
  | .battery => 5
  | .bulbStart => 6
  | .bulbEnd => 7
  | .capture => 8
  | .model => 9
  | .firmware => 11
  | .protocolVersion => 13
  | .iso => 17
  | .aperture => 18
  | .shutter => 19
  | .video => 22
  | .liveView => 23

/-- `switch(bt.dataId)`. -/
def Id.decode (c : UInt8) : Option Id :=
  [.status, .program, .start, .stop, .battery, .bulbStart, .bulbEnd, .capture, .model, .firmware,
    .protocolVersion, .iso, .aperture, .shutter, .video, .liveView].find? fun id => id.code == c

/-- The types of the packets. -/
inductive Kind
  | send
  | request
  | set
  | watch
  | unWatch
deriving Repr, DecidableEq

/-- `REMOTE_TYPE_SEND` to `REMOTE_TYPE_NOTIFY_UNWATCH`. -/
def Kind.code : Kind → UInt8
  | .send => 0
  | .request => 1
  | .set => 2
  | .watch => 3
  | .unWatch => 4

/-- What `bt.dataType` is compared with. -/
def Kind.decode (c : UInt8) : Option Kind :=
  [.send, .request, .set, .watch, .unWatch].find? fun kind => kind.code == c

/-- `sizeof(timer_status)`. -/
def timerStatusSize : Nat := 12 + 1 + 2 + 2 + 2 + 1 + 4 + 2 + 1 + 1 + 2 + 4 + 1 + 1 + 4 + 1 + 1

/-- `sizeof(keyframeGroup_t)`. -/
def keyframeGroupSize : Nat := 10 * (4 + 4) + 1 + 1 + 1 + 1 + 4 + 4 + 4 + 1 + 2

/-- `sizeof(program)`. -/
def programSize : Nat := 12 + 12 * 2 + 6 * keyframeGroupSize + 2 + 1 + 1 + 1 + 1 + 2 + 1

/-- The fields of the `Remote` object. -/
inductive Field
  | connected
  | nmx
  | running
  | battery
  | recording
  | modeLiveView
  | status
  | current
  | model
  | requestActive
deriving Repr, DecidableEq

/-- How many bytes a field has. -/
def Field.size : Field → Nat
  | .status => timerStatusSize
  | .current => programSize
  | _ => 1

/-- Where a field starts. -/
def Field.start : Field → Nat
  | .connected => 0
  | .nmx => 1
  | .running => 2
  | .battery => 3
  | .recording => 4
  | .modeLiveView => 5
  | .status => 6
  | .current => 6 + timerStatusSize
  | .model => 6 + timerStatusSize + programSize
  | .requestActive => 6 + timerStatusSize + programSize + 1

/-- The address lies in the field. -/
def Field.Holds (f : Field) (a : Nat) : Prop := f.start ≤ a ∧ a < f.start + f.size

/-- What may be watched. -/
inductive Item
  | status
  | batteryPercent
  | running
  | recording
  | modeLiveView
deriving Repr, DecidableEq

/-- What is asked of the driver, the list of watched values, the menu, the timer and the
    camera. -/
inductive Remote.Call
  | send (id : Id)
  | request (id : Id)
  | watch (id : Id) (item : Item)
  | unWatch (id : Id)
  | unWatchAll
  | refresh
  | runHandler
  | timerStop
  | bulbStart
  | bulbEnd
  | capture
  | setISO (v : UInt8)
  | setAperture (v : UInt8)
  | setShutter (v : UInt8)
  | videoStart
  | videoStop
  | liveView (v : UInt8)
deriving Repr, DecidableEq

/-- The `Remote` object from its first byte on, the bytes of `timer.current`, whether
    the timer runs, and the calls made. -/
structure Remote where
  mem : Nat → UInt8
  program : Nat → UInt8
  timerRunning : Bool
  calls : List Remote.Call

namespace Remote

/-- A call is made. -/
def call (s : Remote) (c : Call) : Remote := { s with calls := s.calls ++ [c] }

/-- A field of one byte is set. -/
def store (s : Remote) (f : Field) (c : UInt8) : Remote :=
  { s with mem := Function.update s.mem f.start c }

/-- `memcpy(&field, bt.data, bt.dataSize)`. -/
def copy (s : Remote) (b : Bt) (f : Field) : Remote :=
  { s with mem := memcpy s.mem f.start (fun i => b.buf (b.data + i)) b.dataSize }

/-- The same, for a packet as long as the field. -/
def copySized (s : Remote) (b : Bt) (f : Field) : Remote :=
  if b.dataSize = f.size then s.copy b f else s

/-- What is done with a payload of one byte. -/
def withByte (s : Remote) (b : Bt) (go : UInt8 → Remote) : Remote :=
  if b.dataSize = 1 then go (memcpy (fun _ => 0) 0 (fun i => b.buf (b.data + i)) b.dataSize 0)
  else s

/-- A truth value from a payload of one byte. -/
def flag (s : Remote) (b : Bt) (f : Field) : Remote :=
  s.withByte b fun v => s.store f (if v ≠ 0 then 1 else 0)

/-- `send(timer.running ? REMOTE_START : REMOTE_STOP, REMOTE_TYPE_SEND)`. -/
def sendRunning (s : Remote) : Remote := s.call (.send (if s.timerRunning then .start else .stop))

/-- A setting of the camera: it may be asked for, and set from one byte. -/
def setting (s : Remote) (b : Bt) (id : Id) (set : UInt8 → Call) : Option Kind → Remote
  | some .request => s.call (.send id)
  | some .set => s.withByte b fun v => s.call (set v)
  | _ => s

/-- A packet, by its id and its type. -/
def packet (s : Remote) (b : Bt) (id : Id) (kind : Option Kind) : Remote :=
  match id with
  | .status =>
    match kind with
    | some .request => s.call (.send .status)
    | some .send => s.copySized b .status
    | some .watch => s.call (.watch .status .status)
    | some .unWatch => s.call (.unWatch .status)
    | _ => s
  | .program =>
    match kind with
    | some .request => s.call (.send .program)
    | some .send => s.copySized b .current
    | some .set =>
      if b.dataSize = programSize then
        { s with
          program := memcpy s.program 0 (fun i => b.buf (b.data + i)) b.dataSize }.call .refresh
      else s
    | _ => s
  | .battery =>
    match kind with
    | some .request => s.call (.send .battery)
    | some .send => s.copy b .battery
    | some .watch => s.call (.watch .battery .batteryPercent)
    | some .unWatch => s.call (.unWatch .battery)
    | _ => s
  | .start =>
    match kind with
    | some .request => s.sendRunning
    | some .send => s.store .running 1
    | some .set => s.call .runHandler
    | some .watch => s.call (.watch .start .running)
    | some .unWatch => s.call (.unWatch .start)
    | none => s
  | .stop =>
    match kind with
    | some .request => s.sendRunning
    | some .send => s.store .running 0
    | some .set => s.call .timerStop
    -- The run is watched under one id.
    | some .watch => s.call (.watch .start .running)
    | some .unWatch => s.call (.unWatch .start)
    | none => s
  | .bulbStart => if kind = some .set then s.call .bulbStart else s
  | .bulbEnd => if kind = some .set then s.call .bulbEnd else s
  | .capture => if kind = some .set then s.call .capture else s
  | .model =>
    match kind with
    | some .request => s.call (.send .model)
    | some .send => s.copy b .model
    | _ => s
  | .firmware => if kind = some .request then s.call (.send .firmware) else s
  | .protocolVersion => if kind = some .request then s.call (.send .protocolVersion) else s
  | .iso => s.setting b .iso .setISO kind
  | .aperture => s.setting b .aperture .setAperture kind
  | .shutter => s.setting b .shutter .setShutter kind
  | .video =>
    match kind with
    | some .set => s.withByte b fun v => s.call (if v ≠ 0 then .videoStart else .videoStop)
    | some .send => s.flag b .recording
    | some .request => s.call (.send .video)
    | some .watch => s.call (.watch .video .recording)
    | some .unWatch => s.call (.unWatch .video)
    | none => s
  | .liveView =>
    match kind with
    | some .set => s.withByte b fun v => if v ≠ 0 then s.call (.liveView v) else s
    | some .send => s.flag b .modeLiveView
    | some .request => s.call (.send .liveView)
    | some .watch => s.call (.watch .liveView .modeLiveView)
    | some .unWatch => s.call (.unWatch .liveView)
    | none => s

/-- `Remote::event`. An id that is not known returns at once. -/
def event (r : Radio) (s : Remote) : Radio × Remote :=
  match r.event with
  | .disconnect =>
    (r, (((s.call .unWatchAll).store .connected 0).store .nmx 0).store .requestActive 0)
  | .connect =>
    match r.state with
    | .connected =>
      (r, (((s.store .connected 1).store .requestActive 1).call
        (.request .model)).store .requestActive 0)
    | .connectedNmx | .connectedGm => (r, (s.store .nmx 1).store .requestActive 0)
    | _ => (r, s.store .requestActive 0)
  | .data =>
    match Id.decode r.bt.dataId with
    | none => (r, s)
    | some id =>
      ({ r with event := .null },
        (s.packet r.bt id (Kind.decode r.bt.dataType)).store .requestActive 0)
  | _ => (r, s.store .requestActive 0)

end Remote

/-! ### What a packet is about -/

/-- The field whose value a packet brings. -/
def names : Id → Option Kind → Option Field
  | .status, some .send => some .status
  | .program, some .send => some .current
  | .battery, some .send => some .battery
  | .start, some .send => some .running
  | .stop, some .send => some .running
  | .model, some .send => some .model
  | .video, some .send => some .recording
  | .liveView, some .send => some .modeLiveView
  | _, _ => none

/-- The ids that say how the run is. -/
def Id.runs : Id → Bool
  | .start | .stop => true
  | _ => false

/-- The call is what a packet of this id and type asks for. -/
def Remote.Call.Serves : Remote.Call → Id → Option Kind → Prop
  | .send answer, id, kind => kind = some .request ∧ (answer = id ∨ answer.runs ∧ id.runs)
  | .watch item _, id, kind => kind = some .watch ∧ (item = id ∨ item.runs ∧ id.runs)
  | .unWatch item, id, kind => kind = some .unWatch ∧ (item = id ∨ item.runs ∧ id.runs)
  | .refresh, id, kind => id = .program ∧ kind = some .set
  | .runHandler, id, kind => id = .start ∧ kind = some .set
  | .timerStop, id, kind => id = .stop ∧ kind = some .set
  | .bulbStart, id, kind => id = .bulbStart ∧ kind = some .set
  | .bulbEnd, id, kind => id = .bulbEnd ∧ kind = some .set
  | .capture, id, kind => id = .capture ∧ kind = some .set
  | .setISO _, id, kind => id = .iso ∧ kind = some .set
  | .setAperture _, id, kind => id = .aperture ∧ kind = some .set
  | .setShutter _, id, kind => id = .shutter ∧ kind = some .set
  | .videoStart, id, kind => id = .video ∧ kind = some .set
  | .videoStop, id, kind => id = .video ∧ kind = some .set
  | .liveView _, id, kind => id = .liveView ∧ kind = some .set
  | .request _, _, _ => False
  | .unWatchAll, _, _ => False

/-- The call sets something of the camera. -/
def Remote.Call.sets : Remote.Call → Bool
  | .setISO _ | .setAperture _ | .setShutter _ | .videoStart | .videoStop | .liveView _ => true
  | _ => false

/-- Nothing is touched but what the packet is about. Of the object that is the field it
    names, written only from a packet as long as the field, or from one that has no
    payload at all; `requestActive` is cleared by every packet. -/
structure Remote.Addressed (b : Bt) (id : Id) (kind : Option Kind) (s t : Remote) : Prop where
  field : ∀ a, (∀ f, names id kind = some f → ¬ f.Holds a) → a ≠ Field.requestActive.start →
    t.mem a = s.mem a
  sized : ∀ f, names id kind = some f → id.runs = false → b.dataSize ≠ f.size →
    ∀ a, a ≠ Field.requestActive.start → t.mem a = s.mem a
  program : t.program ≠ s.program → id = .program ∧ kind = some .set ∧ b.dataSize = programSize
  beyond : ∀ a, programSize ≤ a → t.program a = s.program a
  calls : ∃ made, t.calls = s.calls ++ made ∧
    ∀ c ∈ made, c.Serves id kind ∧ (c.sets = true → b.dataSize = 1)

/-- The value of the battery or of the model is one byte. -/
def Bt.Fits (b : Bt) : Prop :=
  (Id.decode b.dataId = some .battery ∨ Id.decode b.dataId = some .model) →
    Kind.decode b.dataType = some .send → b.dataSize = 1

/-! ### The parts of a packet's handling -/

namespace Remote

section Parts

variable {b : Bt} {id : Id} {kind : Option Kind} {s : Remote}

theorem Addressed.refl (b : Bt) (id : Id) (kind : Option Kind) (s : Remote) :
    Addressed b id kind s s where
  field _ _ _ := rfl
  sized _ _ _ _ _ _ := rfl
  program h := absurd rfl h
  beyond _ _ := rfl
  calls := ⟨[], (List.append_nil _).symm, fun _ hc => absurd hc List.not_mem_nil⟩

/-- A call that the packet asks for. -/
theorem Addressed.call {c : Call} (hserves : c.Serves id kind)
    (hsets : c.sets = true → b.dataSize = 1) : Addressed b id kind s (s.call c) where
  field _ _ _ := rfl
  sized _ _ _ _ _ _ := rfl
  program h := absurd rfl h
  beyond _ _ := rfl
  calls := ⟨[c], rfl, fun d hd => by
    rw [List.mem_singleton.mp hd]
    exact ⟨hserves, hsets⟩⟩

/-- Bytes that all lie in the field the packet names. -/
theorem Addressed.write {f : Field} {mem : Nat → UInt8} (hnames : names id kind = some f)
    (hsize : id.runs = false → b.dataSize = f.size)
    (hmem : ∀ a, ¬ f.Holds a → mem a = s.mem a) :
    Addressed b id kind s { s with mem := mem } where
  field a hno _ := hmem a (hno f hnames)
  sized g hg hruns hne := by
    rw [hnames] at hg
    exact absurd (Option.some.inj hg ▸ hsize hruns) hne
  program h := absurd rfl h
  beyond _ _ := rfl
  calls := ⟨[], (List.append_nil _).symm, fun _ hc => absurd hc List.not_mem_nil⟩

/-- A byte in a field of one byte. -/
theorem Addressed.store {f : Field} (c : UInt8) (hnames : names id kind = some f)
    (hone : f.size = 1) (hsize : id.runs = false → b.dataSize = 1) :
    Addressed b id kind s (s.store f c) := by
  refine .write hnames (fun hruns => (hsize hruns).trans hone.symm) fun a hno => ?_
  refine Function.update_of_ne (fun ha => hno ?_) c s.mem
  unfold Field.Holds
  omega

/-- A payload as long as the field. -/
theorem Addressed.copy {f : Field} (hnames : names id kind = some f)
    (hsize : b.dataSize = f.size) : Addressed b id kind s (s.copy b f) := by
  refine .write hnames (fun _ => hsize) fun a hno => ?_
  unfold memcpy
  rw [hsize]
  exact if_neg hno

theorem Addressed.copySized {f : Field} (hnames : names id kind = some f) :
    Addressed b id kind s (s.copySized b f) := by
  unfold Remote.copySized
  by_cases hsize : b.dataSize = f.size
  · rw [if_pos hsize]
    exact .copy hnames hsize
  · rw [if_neg hsize]
    exact .refl b id kind s

/-- Whatever is done with a payload of one byte is done only with one. -/
theorem Addressed.withByte {go : UInt8 → Remote}
    (h : b.dataSize = 1 → ∀ v, Addressed b id kind s (go v)) :
    Addressed b id kind s (s.withByte b go) := by
  unfold Remote.withByte
  by_cases hone : b.dataSize = 1
  · rw [if_pos hone]
    exact h hone _
  · rw [if_neg hone]
    exact .refl b id kind s

theorem Addressed.flag {f : Field} (hnames : names id kind = some f) (hone : f.size = 1) :
    Addressed b id kind s (s.flag b f) :=
  .withByte fun hsize _ => .store _ hnames hone fun _ => hsize

/-- A call that sets nothing of the camera. -/
theorem Addressed.plain {c : Call} (hserves : c.Serves id kind) (hsets : c.sets = false) :
    Addressed b id kind s (s.call c) :=
  .call hserves fun h => Bool.noConfusion (h.symm.trans hsets)

/-- Of the settings of the camera each is set by its own packet. -/
theorem Addressed.setting {set : UInt8 → Call}
    (hset : ∀ v, (set v).Serves id (some .set)) :
    Addressed b id kind s (s.setting b id set kind) := by
  rcases kind with _ | kind
  · exact .refl ..
  · cases kind with
    | request => exact .plain ⟨rfl, Or.inl rfl⟩ rfl
    | set => exact .withByte fun hsize v => .call (hset v) fun _ => hsize
    | send => exact .refl ..
    | watch => exact .refl ..
    | unWatch => exact .refl ..

theorem Addressed.sendRunning (hruns : id.runs = true) :
    Addressed b id (some .request) s s.sendRunning := by
  refine .plain ⟨rfl, Or.inr ⟨?_, hruns⟩⟩ rfl
  split <;> rfl

/-- What is done for one type of packet only. -/
theorem Addressed.when {t : Remote} {p : Prop} [Decidable p] (h : p → Addressed b id kind s t) :
    Addressed b id kind s (if p then t else s) := by
  by_cases hp : p
  · rw [if_pos hp]
    exact h hp
  · rw [if_neg hp]
    exact .refl b id kind s

/-- The programme is set from a packet that holds a whole one. -/
theorem program_addressed (s : Remote) (b : Bt) :
    Addressed b .program (some .set) s (s.packet b .program (some .set)) := by
  refine .when fun hsize => ⟨fun _ _ _ => rfl, fun _ _ _ _ _ _ => rfl,
    fun _ => ⟨rfl, rfl, hsize⟩, fun a ha => if_neg fun hin => ?_, ⟨[.refresh], rfl, ?_⟩⟩
  · rw [hsize] at hin
    omega
  · intro c hc
    rw [List.mem_singleton.mp hc]
    exact ⟨⟨rfl, rfl⟩, fun h => absurd h Bool.false_ne_true⟩

theorem video_addressed (s : Remote) (b : Bt) (v : UInt8) (hsize : b.dataSize = 1) :
    Addressed b .video (some .set) s
      (s.call (if v ≠ 0 then .videoStart else .videoStop)) := by
  by_cases hv : v ≠ 0
  · rw [if_pos hv]
    exact .call ⟨rfl, rfl⟩ fun _ => hsize
  · rw [if_neg hv]
    exact .call ⟨rfl, rfl⟩ fun _ => hsize

theorem liveView_addressed (s : Remote) (b : Bt) (v : UInt8) (hsize : b.dataSize = 1) :
    Addressed b .liveView (some .set) s (if v ≠ 0 then s.call (.liveView v) else s) :=
  .when fun _ => .call ⟨rfl, rfl⟩ fun _ => hsize

/-- The event that has been dealt with is no longer asked for. -/
theorem Addressed.cleared {t : Remote} (h : Addressed b id kind s t) :
    Addressed b id kind s (t.store .requestActive 0) where
  field a hno ha := (Function.update_of_ne ha _ _).trans (h.field a hno ha)
  sized f hf hruns hne a ha := (Function.update_of_ne ha _ _).trans (h.sized f hf hruns hne a ha)
  program := h.program
  beyond := h.beyond
  calls := h.calls

end Parts

/-- A packet touches what it is about. -/
theorem packet_addressed (s : Remote) (b : Bt) (id : Id) (kind : Option Kind)
    (hfits : id = .battery ∨ id = .model → kind = some .send → b.dataSize = 1) :
    Addressed b id kind s (s.packet b id kind) := by
  rcases kind with _ | kind
  · -- A type that is not known asks for nothing.
    cases id <;> exact .refl ..
  · cases id with
    | status =>
        cases kind with
        | send => exact .copySized rfl
        | request => exact .plain ⟨rfl, Or.inl rfl⟩ rfl
        | set => exact .refl ..
        | watch => exact .plain ⟨rfl, Or.inl rfl⟩ rfl
        | unWatch => exact .plain ⟨rfl, Or.inl rfl⟩ rfl
    | program =>
        cases kind with
        | send => exact .copySized rfl
        | request => exact .plain ⟨rfl, Or.inl rfl⟩ rfl
        | set => exact program_addressed s b
        | watch => exact .refl ..
        | unWatch => exact .refl ..
    | start =>
        cases kind with
        | send => exact .store 1 rfl rfl fun hno => absurd hno (by decide)
        | request => exact .sendRunning rfl
        | set => exact .plain ⟨rfl, rfl⟩ rfl
        | watch => exact .plain ⟨rfl, Or.inl rfl⟩ rfl
        | unWatch => exact .plain ⟨rfl, Or.inl rfl⟩ rfl
    | stop =>
        cases kind with
        | send => exact .store 0 rfl rfl fun hno => absurd hno (by decide)
        | request => exact .sendRunning rfl
        | set => exact .plain ⟨rfl, rfl⟩ rfl
        | watch => exact .plain ⟨rfl, Or.inr ⟨rfl, rfl⟩⟩ rfl
        | unWatch => exact .plain ⟨rfl, Or.inr ⟨rfl, rfl⟩⟩ rfl
    | battery =>
        cases kind with
        | send => exact .copy rfl (hfits (Or.inl rfl) rfl)
        | request => exact .plain ⟨rfl, Or.inl rfl⟩ rfl
        | set => exact .refl ..
        | watch => exact .plain ⟨rfl, Or.inl rfl⟩ rfl
        | unWatch => exact .plain ⟨rfl, Or.inl rfl⟩ rfl
    | model =>
        cases kind with
        | send => exact .copy rfl (hfits (Or.inr rfl) rfl)
        | request => exact .plain ⟨rfl, Or.inl rfl⟩ rfl
        | set => exact .refl ..
        | watch => exact .refl ..
        | unWatch => exact .refl ..
    | video =>
        cases kind with
        | send => exact .flag rfl rfl
        | request => exact .plain ⟨rfl, Or.inl rfl⟩ rfl
        | set => exact .withByte fun hsize v => video_addressed s b v hsize
        | watch => exact .plain ⟨rfl, Or.inl rfl⟩ rfl
        | unWatch => exact .plain ⟨rfl, Or.inl rfl⟩ rfl
    | liveView =>
        cases kind with
        | send => exact .flag rfl rfl
        | request => exact .plain ⟨rfl, Or.inl rfl⟩ rfl
        | set => exact .withByte fun hsize v => liveView_addressed s b v hsize
        | watch => exact .plain ⟨rfl, Or.inl rfl⟩ rfl
        | unWatch => exact .plain ⟨rfl, Or.inl rfl⟩ rfl
    | iso => exact .setting fun _ => ⟨rfl, rfl⟩
    | aperture => exact .setting fun _ => ⟨rfl, rfl⟩
    | shutter => exact .setting fun _ => ⟨rfl, rfl⟩
    | bulbStart => exact .when fun h => .plain ⟨rfl, h⟩ rfl
    | bulbEnd => exact .when fun h => .plain ⟨rfl, h⟩ rfl
    | capture => exact .when fun h => .plain ⟨rfl, h⟩ rfl
    | firmware => exact .when fun h => .plain ⟨h, Or.inl rfl⟩ rfl
    | protocolVersion => exact .when fun h => .plain ⟨h, Or.inl rfl⟩ rfl

/-! ### What is read -/

theorem memcpy_congr {src other : Nat → UInt8} {n : Nat} (h : ∀ i < n, other i = src i)
    (dst : Nat → UInt8) (start : Nat) :
    memcpy dst start other n = memcpy dst start src n := by
  funext a
  unfold memcpy
  by_cases ha : start ≤ a ∧ a < start + n
  · rw [if_pos ha, if_pos ha]
    exact h (a - start) (by omega)
  · rw [if_neg ha, if_neg ha]

/-- A packet is the same when its payload is. -/
theorem packet_congr {b b' : Bt} (hsize : b'.dataSize = b.dataSize)
    (hsame : ∀ i < b.dataSize, b'.buf (b'.data + i) = b.buf (b.data + i)) (s : Remote) (id : Id)
    (kind : Option Kind) : s.packet b' id kind = s.packet b id kind := by
  have hmemcpy := memcpy_congr (n := b.dataSize) hsame
  have hcopy : ∀ (t : Remote) f, t.copy b' f = t.copy b f := fun t f => by
    unfold copy
    rw [hsize, hmemcpy]
  have hsized : ∀ (t : Remote) f, t.copySized b' f = t.copySized b f := fun t f => by
    unfold copySized
    rw [hsize, hcopy]
  have hbyte : ∀ (t : Remote) go, t.withByte b' go = t.withByte b go := fun t go => by
    unfold withByte
    rw [hsize, hmemcpy]
  have hsetting : ∀ (t : Remote) i set, t.setting b' i set kind = t.setting b i set kind :=
    fun t i set => by
      unfold setting
      simp only [hbyte]
  unfold packet
  simp only [hsetting, hsized, hbyte, hcopy, flag, hsize, hmemcpy]

/-- An event looks at no byte of the buffer but those of the payload. -/
theorem event_congr (r : Radio) (s : Remote) {buf : Nat → UInt8}
    (hsame : ∀ i < r.bt.dataSize, buf (r.bt.data + i) = r.bt.buf (r.bt.data + i)) :
    (event { r with bt := { r.bt with buf := buf } } s).2 = (event r s).2 := by
  have hpacket : ∀ id kind,
      s.packet { r.bt with buf := buf } id kind = s.packet r.bt id kind := fun id kind =>
    packet_congr (by rfl) hsame s id kind
  unfold event
  cases r.event with
  | data =>
      simp only
      cases Id.decode r.bt.dataId with
      | none => rfl
      | some id => simp only [hpacket]
  | connect => cases r.state <;> rfl
  | null => rfl
  | discovery => rfl
  | disconnect => rfl
  | scanComplete => rfl

end Remote

/-! ### What has been received -/

/-- The bytes in the buffer that count. -/
def Bt.cells (s : Bt) (n : Nat) : List UInt8 := (List.range n).map s.buf

theorem Bt.cells_congr {s t : Bt} (n : Nat) (h : ∀ i < n, t.buf i = s.buf i) :
    t.cells n = s.cells n :=
  List.map_congr_left fun i hi => h i (List.mem_range.mp hi)

theorem Bt.dataByte_buf (s : Bt) (n : Nat) : (s.dataByte n).1.buf = s.buf := by
  unfold Bt.dataByte
  split
  · rfl
  · split <;> rfl

theorem Bt.cells_setBuf (s : Bt) {n : Nat} (hn : n < bufSize) (c : UInt8) :
    (s.setBuf n c).cells (n + 1) = s.cells n ++ [c] := by
  unfold Bt.cells
  rw [List.range_succ, List.map_append, List.map_singleton, Bt.setBuf_buf_self s n c hn]
  exact congrArg (· ++ [c])
    (Bt.cells_congr n fun i hi => Bt.setBuf_buf_of_ne s n c (Nat.ne_of_lt hi))

/-- Once a size is there, `data` points behind the header. -/
def Bt.Points (s : Bt) : Prop := s.dataSize = 0 ∨ s.data = 6

theorem Bt.Points.setBuf {s : Bt} (h : s.Points) (i : Nat) (c : UInt8) : (s.setBuf i c).Points := by
  unfold Bt.Points
  rw [Bt.setBuf_dataSize, Bt.setBuf_data]
  exact h

theorem Bt.Points.dataByte {s : Bt} (h : s.Points) (n : Nat) : (s.dataByte n).1.Points := by
  unfold Bt.dataByte
  split
  · exact h
  · split
    · exact Or.inr rfl
    · exact h

/-- The buffer's bytes are the last of those taken from the line. -/
structure Bt.Loads (s : Bt) (n : Nat) (taken : List UInt8) : Prop where
  cells : s.cells n <:+ taken
  points : s.Points

/-- One byte more. -/
theorem received_loads {s : Bt} {n : Nat} {taken : List UInt8} (hn : n < bufSize)
    (h : s.Loads n taken) (c : UInt8) :
    (received s n c).1.Loads (received s n c).2.1 (taken ++ [c]) := by
  have hpoints : (s.setBuf n c).Points := h.points.setBuf n c
  by_cases hskip : skipped n c = true
  · -- A line end that is skipped is not counted.
    have hzero : n = 0 := by
      unfold skipped at hskip
      rw [Bool.and_eq_true, decide_eq_true_eq] at hskip
      exact hskip.1
    subst hzero
    have hno : (s.setBuf 0 c).restarts 0 = false := by
      unfold Bt.restarts
      rw [decide_eq_false (by omega), Bool.and_false, Bool.false_and]
    rw [received, hskip, if_pos rfl]
    unfold Bt.counted
    split
    · exact ⟨List.nil_suffix, hpoints⟩
    · rw [if_neg (by rw [hno]; exact Bool.false_ne_true)]
      exact ⟨List.nil_suffix, hpoints.dataByte 0⟩
  · have hcells : (s.setBuf n c).cells (n + 1) <:+ taken ++ [c] := by
      rw [Bt.cells_setBuf s hn]
      rcases h.cells with ⟨head, hhead⟩
      exact ⟨head, by rw [← List.append_assoc, hhead]⟩
    rw [received, if_neg hskip]
    unfold Bt.counted
    split
    · exact ⟨hcells, hpoints⟩
    · by_cases hrestart : (s.setBuf n c).restarts (n + 1) = true
      · -- The byte is the first of a packet, and the buffer starts again with it.
        have hdollar : c = dollar := by
          unfold Bt.restarts at hrestart
          rw [Bool.and_eq_true, Bt.last_pos _ (by omega), Nat.add_sub_cancel,
            Bt.setBuf_buf_self s n c hn, beq_iff_eq] at hrestart
          exact hrestart.2
        rw [if_pos hrestart]
        refine ⟨?_, (hpoints.setBuf 0 dollar).dataByte 1⟩
        have hone : (((s.setBuf n c).setBuf 0 dollar).dataByte 1).1.cells 1 = [c] := by
          unfold Bt.cells
          rw [Bt.dataByte_buf, hdollar]
          exact congrArg (· :: []) (Bt.setBuf_buf_self _ 0 dollar (by decide))
        rw [hone]
        exact List.suffix_append taken [c]
      · rw [if_neg hrestart]
        refine ⟨?_, hpoints.dataByte (n + 1)⟩
        rw [Bt.cells_congr (n + 1) fun i _ => congrFun (Bt.dataByte_buf _ _) i]
        exact hcells

/-- The loop goes on only with room for the next byte. -/
theorem received_room (s : Bt) (n : Nat) (c : UInt8) (h : (received s n c).2.2 = false) :
    (received s n c).2.1 < bufSize :=
  (Bt.counted_spec (s.setBuf n c) (if skipped n c then n else n + 1)).2.2.2 h

theorem readLoop_loads (timing : List Nat) (line : List UInt8) {s : Bt} {n : Nat}
    {taken : List UInt8} (hn : n < bufSize) (h : s.Loads n taken) :
    ∃ more, line = more ++ (readLoop timing line s n).2.2 ∧
      (readLoop timing line s n).1.Loads (readLoop timing line s n).2.1 (taken ++ more) := by
  have hstay : ∀ {line : List UInt8} {s : Bt} {n : Nat} {taken : List UInt8},
      s.Loads n taken → ∃ more, line = more ++ line ∧ s.Loads n (taken ++ more) := by
    intro line s n taken h
    exact ⟨[], rfl, by rw [List.append_nil]; exact h⟩
  induction timing generalizing line s n taken with
  | nil => exact hstay h
  | cons polls timing ih =>
      cases line with
      | nil => exact hstay h
      | cons c line =>
          rw [readLoop]
          by_cases hlate : polls > patience n
          · rw [if_pos hlate]
            exact hstay h
          · rw [if_neg hlate]
            have hnext := received_loads hn h c
            by_cases hend : (received s n c).2.2 = true
            · simp only [hend, if_true]
              exact ⟨[c], rfl, hnext⟩
            · simp only [hend, Bool.false_eq_true, if_false]
              rcases ih line (received_room s n c (Bool.eq_false_iff.mpr hend)) hnext
                with ⟨more, hmore, hloads⟩
              refine ⟨c :: more, congrArg (c :: ·) hmore, ?_⟩
              rw [List.append_cons]
              exact hloads

/-- A packet has come whole: its header and all of its payload are in the buffer. -/
def Bt.Whole (s : Bt) (n : Nat) : Prop := s.dataSize + 6 ≤ n

/-- The bytes in the buffer are the last that a call has taken from the line, and the
    payload of a packet that has come whole is among them. -/
def Bt.Taken (s : Bt) (n : Nat) (line rest : List UInt8) : Prop :=
  ∃ taken, line = taken ++ rest ∧ s.cells n <:+ taken ∧
    (s.Whole n → s.dataSize = 0 ∨ s.data + s.dataSize ≤ n)

/-- What a call leaves in the buffer has been received in it. -/
theorem read_received (timing : List Nat) (line : List UInt8) {s : Bt}
    (hpresent : s.present = true) :
    (read timing line s).1.Taken (read timing line s).2.1 line (read timing line s).2.2 := by
  let t : Bt := { s with dataId := 0, dataSize := 0 }
  have hne : ¬ s.present = false := by
    rw [hpresent]
    exact Bool.noConfusion
  have hread : read timing line s = ((readLoop timing line t 0).1.setBuf
      (readLoop timing line t 0).2.1 0, (readLoop timing line t 0).2.1,
      (readLoop timing line t 0).2.2) := by
    rw [read, if_neg hne]
  have hstart : t.Loads 0 [] := ⟨List.nil_suffix, Or.inl rfl⟩
  rcases readLoop_loads timing line (by decide) hstart with ⟨more, hmore, hloads⟩
  refine ⟨more, ?_, ?_, ?_⟩
  · rw [hread]
    exact hmore
  · -- The final NUL lies behind the bytes that count.
    rw [hread, Bt.cells_congr _ fun i hi => Bt.setBuf_buf_of_ne _ _ 0 (Nat.ne_of_lt hi)]
    exact hloads.cells
  · intro hwhole
    have hpoints := hloads.points.setBuf (readLoop timing line t 0).2.1 0
    rw [hread] at hwhole ⊢
    unfold Bt.Whole at hwhole
    rcases hpoints with hzero | hsix
    · exact Or.inl hzero
    · right
      simp only at hwhole ⊢
      omega

/-! ### Events -/

namespace Remote

/-- What is asked of an event that brings a packet: an id that is not known touches
    nothing, any other what it is about; no byte is read but those of the payload, and
    these have been received, if the packet has come whole. -/
structure Minds (r : Radio) (s : Remote) : Prop where
  unknown : Id.decode r.bt.dataId = none → (event r s).2 = s
  addressed : ∀ id, Id.decode r.bt.dataId = some id →
    Addressed r.bt id (Kind.decode r.bt.dataType) s (event r s).2
  reads : ∀ buf, (∀ i < r.bt.dataSize, buf (r.bt.data + i) = r.bt.buf (r.bt.data + i)) →
    (event { r with bt := { r.bt with buf := buf } } s).2 = (event r s).2
  received : ∀ timing line b, b.present = true → r.bt = (read timing line b).1 →
    r.bt.Taken (read timing line b).2.1 line (read timing line b).2.2

/-- Every packet whose value fits touches what it is about. -/
theorem event_addressed (r : Radio) (s : Remote) (hevent : r.event = .data)
    (hfits : r.bt.Fits) : Minds r s := by
  refine ⟨fun hnone => ?_, fun id hid => ?_, fun buf => event_congr r s, ?_⟩
  · simp only [event, hevent, hnone]
  · have hpacket := packet_addressed s r.bt id (Kind.decode r.bt.dataType) fun hor =>
      hfits (hor.elim (fun h => Or.inl (h ▸ hid)) (fun h => Or.inr (h ▸ hid)))
    simp only [event, hevent, hid]
    exact hpacket.cleared
  · intro timing line b hpresent hread
    rw [hread]
    exact read_received timing line hpresent

/-- The driver when a call of `read` has brought a packet. -/
def delivered (line : List UInt8) : Radio :=
  { Radio.fresh with
    bt := (read (List.replicate line.length 0) line { Radio.fresh.bt with mode := .data }).1
    event := .data }

/-- The object with every byte zero but `requestActive`. -/
def asking : Remote where
  mem := Function.update (fun _ => 0) Field.requestActive.start 1
  program := fun _ => 0
  timerRunning := false
  calls := []

/-- The battery of the other side is taken over. -/
theorem event_addressed_battery :
    (event (delivered (packetBytes 5 0 [77])) asking).2.mem Field.battery.start = 77 ∧
      Minds (delivered (packetBytes 5 0 [77])) asking :=
  ⟨rfl, event_addressed _ asking rfl fun _ _ => rfl⟩

/-- Nothing of the object is changed but the field that the packet names, and that by a
    packet as long as the field. -/
def Strict (b : Bt) (s t : Remote) : Prop :=
  ∀ a, t.mem a ≠ s.mem a → ∃ id f, Id.decode b.dataId = some id ∧
    names id (Kind.decode b.dataType) = some f ∧ f.Holds a ∧ b.dataSize = f.size

/-- The packet that says that a run has started has no payload. It sets `running`, and
    it clears `requestActive`, which it does not name. -/
theorem start_sizeless : let r := delivered (packetBytes 3 0 []);
    r.bt.Whole 6 ∧ (event r asking).2.mem Field.running.start ≠ asking.mem Field.running.start ∧
      (event r asking).2.mem Field.requestActive.start ≠
        asking.mem Field.requestActive.start ∧ ¬ Strict r.bt asking (event r asking).2 := by
  have hsize : (delivered (packetBytes 3 0 [])).bt.dataSize = 0 := rfl
  have hrunning : (event (delivered (packetBytes 3 0 [])) asking).2.mem Field.running.start ≠
      asking.mem Field.running.start := by decide
  refine ⟨?_, hrunning, by decide, fun hstrict => ?_⟩
  · unfold Bt.Whole
    omega
  · rcases hstrict _ hrunning with ⟨id, f, -, -, -, hf⟩
    rw [hsize] at hf
    exact absurd hf (by cases f <;> decide)

end Remote

end Bluetooth

end TimelapsePlus
