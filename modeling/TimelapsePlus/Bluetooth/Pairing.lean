import TimelapsePlus.Bluetooth.Watches

/-!
# What Holds of Two Connected Units

What holds of both units and of what is underway, in every state that any run comes to.
The only thing asked of a run is that no page of the menu asks for the programme, whose
packet does not fit the buffer of the other unit.

What is underway to a unit is in order: packets come only while a connection is there,
and the module's lines that it is there and that it is gone alternate, beginning with
what the unit knows already (`orderly`). So a packet is only ever read in data mode, and
it is read as it was sent.

No watch ever fails for want of room, and a unit that has been told that the connection
is gone sends nothing of itself any more: nothing is watched for the other one, until
there is a new connection and it asks again.

## Main definitions

* `Pair.Fits`: What a page may ask for.
* `orderly`: What is underway is in order.
* `Peer.Sound`, `Pair.Sound`: What holds of a unit, and of both.

## Theorems

* `menu_sound`, `radio_sound`, `late_sound`: The parts of the main loop keep it.
* `step_sound`: So does every step.
* `watches_kept`: No watch fails, and none outlives the connection.
-/

namespace TimelapsePlus

namespace Bluetooth

/-- The id is not that of the programme. -/
def Ask.Fits : Ask → Prop
  | .request id | .watch id | .unWatch id | .set id | .setValue id _ => id ≠ .program

/-- No page asks for the programme. -/
def Pair.Fits (_ : Pair) : Pair.Label → Prop
  | .act _ (.menu _ asks) => ∀ a ∈ asks, a.Fits
  | _ => True

instance : DecidablePred Ask.Fits := fun a => by
  cases a <;> exact inferInstanceAs (Decidable (_ ≠ _))

instance (s : Pair) (l : Pair.Label) : Decidable (s.Fits l) :=
  match l with
  | .act _ (.menu _ asks) => inferInstanceAs (Decidable (∀ a ∈ asks, a.Fits))
  | .act _ (.radio _) | .act _ (.late _) | .lose _ _ | .hangUp | .connect =>
    inferInstanceAs (Decidable True)

/-! ### What is sent fits -/

namespace Peer

variable {p : Peer}

theorem value_length (p : Peer) (item : Item) : (p.value item).length = item.size.toNat := by
  unfold value Notify.content
  rw [List.length_map, List.length_range]

/-- Only the programme does not fit. -/
theorem payload_fits (p : Peer) {i : Id} (hi : i ≠ .program) :
    6 + (p.payload (some i)).length ≤ bufSize := by
  cases i <;> first | exact absurd rfl hi | exact of_decide_eq_true rfl

theorem sendDATA_sound {i : Id} {kind : Kind} {payload : List UInt8} (hi : i ≠ .program)
    (hfits : 6 + payload.length ≤ bufSize)
    (hone : i = .battery ∨ i = .model → kind = .send → payload.length = 1) :
    ∀ c ∈ p.sendDATA i.code kind.code payload, c.Sound := by
  intro c hc
  unfold sendDATA at hc
  split at hc
  · rw [List.mem_singleton.mp hc]
    refine ⟨by cases i <;> decide, hfits, ?_, ?_⟩
    · rw [Id.decode_code]
      exact fun h => hi (Option.some.inj h)
    · rw [Id.decode_code, Kind.decode_code]
      simp only [Option.some.injEq]
      exact hone
  · exact absurd hc List.not_mem_nil

theorem send_sound {i : Id} (kind : Kind) (hi : i ≠ .program) :
    ∀ c ∈ p.send i.code kind, c.Sound := by
  unfold send
  rw [Id.decode_code]
  refine sendDATA_sound hi (p.payload_fits hi) fun hor _ => ?_
  rcases hor with rfl | rfl
  · exact p.value_length .batteryPercent
  · rfl

/-- A request, a setting or a watch is short. -/
theorem sendDATA_short {i : Id} {kind : Kind} {payload : List UInt8} (hi : i ≠ .program)
    (hkind : kind ≠ .send) (hshort : payload.length ≤ 1) :
    ∀ c ∈ p.sendDATA i.code kind.code payload, c.Sound :=
  sendDATA_sound hi (by unfold bufSize; omega) fun _ h => absurd h hkind

theorem ask_sound {a : Ask} (ha : a.Fits) : ∀ c ∈ p.ask a, c.Sound := by
  cases a with
  | request id => exact sendDATA_short ha Kind.noConfusion (Nat.zero_le 1)
  | watch id => exact sendDATA_short ha Kind.noConfusion (Nat.zero_le 1)
  | unWatch id => exact sendDATA_short ha Kind.noConfusion (Nat.zero_le 1)
  | set id => exact send_sound .set ha
  | setValue id v => exact sendDATA_short ha Kind.noConfusion (Nat.le_refl 1)

theorem remoteNotify_sound (item : Item) : ∀ c ∈ p.remoteNotify item.id.code, c.Sound := by
  unfold remoteNotify
  rw [Id.decode_code]
  cases item with
  | running =>
      change ∀ c ∈ p.send (if p.running then Id.start.code else Id.stop.code) .send, c.Sound
      split
      · exact send_sound .send Id.noConfusion
      · exact send_sound .send Id.noConfusion
  | status => exact send_sound .send Id.noConfusion
  | batteryPercent => exact send_sound .send Id.noConfusion
  | recording => exact send_sound .send Id.noConfusion
  | modeLiveView => exact send_sound .send Id.noConfusion

end Peer

/-- The programme is asked for by its own id only. -/
theorem Remote.event_program {r : Radio} {s : Remote} (hs : s.calls = [])
    (hfits : r.event = .data → r.bt.Fits ∧ Id.decode r.bt.dataId ≠ some .program) :
    Remote.Call.send .program ∉ (Remote.event r s).2.calls := by
  intro hmem
  unfold Remote.event at hmem
  cases hevent : r.event with
  | data =>
      rw [hevent] at hmem
      simp only at hmem
      rcases hfits hevent with ⟨hone, hno⟩
      cases hid : Id.decode r.bt.dataId with
      | none =>
          rw [hid] at hmem
          simp only [hs] at hmem
          exact absurd hmem List.not_mem_nil
      | some id =>
          rw [hid] at hmem
          rcases (packet_addressed s r.bt id (Kind.decode r.bt.dataType) fun hor hsend =>
            hone (hor.imp (fun h => hid.trans (congrArg some h)) fun h =>
              hid.trans (congrArg some h)) hsend).calls with ⟨made, hmade, hserves⟩
          have hin : Remote.Call.send .program ∈ made := by
            change _ ∈ (s.packet r.bt id (Kind.decode r.bt.dataType)).calls at hmem
            rw [hmade, hs] at hmem
            exact hmem
          rcases (hserves _ hin).1 with ⟨-, hsame | ⟨hruns, -⟩⟩
          · exact hno (hid.trans (congrArg some hsame.symm))
          · exact Bool.noConfusion hruns
  | disconnect =>
      rw [hevent] at hmem
      change _ ∈ s.calls ++ [.unWatchAll] at hmem
      rw [hs] at hmem
      exact Remote.Call.noConfusion (List.mem_singleton.mp hmem)
  | connect =>
      rw [hevent] at hmem
      simp only at hmem
      cases hstate : r.state with
      | connected =>
          rw [hstate] at hmem
          change _ ∈ s.calls ++ [.request .model] at hmem
          rw [hs] at hmem
          exact Remote.Call.noConfusion (List.mem_singleton.mp hmem)
      | _ =>
          rw [hstate] at hmem
          change _ ∈ s.calls at hmem
          rw [hs] at hmem
          exact absurd hmem List.not_mem_nil
  | _ =>
      rw [hevent] at hmem
      change _ ∈ s.calls at hmem
      rw [hs] at hmem
      exact absurd hmem List.not_mem_nil

namespace Peer

variable {p : Peer} {vars : Nat → UInt8}

/-- What an event sends fits, if its packet was not about the programme. -/
theorem served_sound {c : Remote.Call} (hc : p.Makes vars c)
    (hfits : p.event = .data → p.bt.Fits ∧ Id.decode p.bt.dataId ≠ some .program) :
    ∀ d ∈ (p.handled vars).served c, d.Sound := by
  cases c with
  | send id =>
      refine send_sound .send fun heq => ?_
      have hno := Remote.event_program (r := (p.refreshed vars).toRadio)
        (s := { p.remote with timerRunning := (p.refreshed vars).running, calls := [] }) rfl hfits
      change Remote.Call.send .program ∉ (p.refreshed vars).heeded.2.calls at hno
      rw [hc.2, heq] at hno
      exact hno (List.mem_singleton_self _)
  | request id =>
      rcases hc.1 with ⟨-, hsane⟩ | ⟨-, hmodel⟩ | ⟨-, hother⟩
      · exact hsane.elim
      · rw [Remote.Call.request.inj hmodel]
        exact sendDATA_short Id.noConfusion Kind.noConfusion (Nat.zero_le 1)
      · exact Remote.Call.noConfusion hother
  | _ => exact fun d hd => absurd hd List.not_mem_nil

end Peer

/-! ### What is underway -/

/-- What is underway to a unit that knows whether there is a connection: packets come
    only while there is one. The result is whether there will be one. -/
def orderly : Bool → List Cargo → Option Bool
  | linked, [] => some linked
  | false, .up :: cs => orderly true cs
  | true, .down :: cs => orderly false cs
  | true, .packet _ _ _ :: cs => orderly true cs
  | _, _ :: _ => none

theorem orderly_append (linked : Bool) (cs ds : List Cargo) :
    orderly linked (cs ++ ds) = (orderly linked cs).bind fun l => orderly l ds := by
  induction cs generalizing linked with
  | nil => cases linked <;> rfl
  | cons c cs ih =>
      rcases c with _ | _ | ⟨id, type, payload⟩ <;> cases linked <;> first | rfl | exact ih _

/-- Packets come behind what is underway while there is a connection. -/
theorem orderly_packets {cs : List Cargo} (h : ∀ c ∈ cs, c.Sound) :
    orderly true cs = some true := by
  induction cs with
  | nil => rfl
  | cons c cs ih =>
      rcases c with _ | _ | ⟨id, type, payload⟩
      · exact (h _ List.mem_cons_self).elim
      · exact (h _ List.mem_cons_self).elim
      · exact ih fun d hd => h d (List.mem_cons_of_mem _ hd)

/-- The loss of a packet leaves the order. -/
theorem orderly_erase {linked l : Bool} {cs : List Cargo} {i : Nat} {id type : UInt8}
    {payload : List UInt8} (h : orderly linked cs = some l)
    (hi : cs[i]? = some (.packet id type payload)) : orderly linked (cs.eraseIdx i) = some l := by
  induction cs generalizing linked i with
  | nil => exact absurd hi (by simp only [List.getElem?_nil, reduceCtorEq, not_false_eq_true])
  | cons c cs ih =>
      cases i with
      | zero =>
          rw [List.getElem?_cons_zero, Option.some.injEq] at hi
          subst hi
          cases linked with
          | false => exact absurd h.symm (Option.some_ne_none l)
          | true => exact h
      | succ i =>
          rw [List.getElem?_cons_succ] at hi
          rw [List.eraseIdx_cons_succ]
          rcases c with _ | _ | ⟨id, type, payload⟩ <;> cases linked <;> first
            | exact absurd h.symm (Option.some_ne_none l)
            | exact ih h hi

/-! ### A unit -/

/-- What holds of a unit. -/
structure Peer.Sound (p : Peer) : Prop where
  present : p.bt.present = true
  tied : p.state = .connected ↔ p.bt.mode = .data
  /-- What is to be handled has been read while there was a connection. -/
  fits : p.place = .late → p.event = .data →
    p.bt.Fits ∧ Id.decode p.bt.dataId ≠ some .program ∧ p.state = .connected
  table : Tabled p.table
  deaf : p.state ≠ .connected → Deaf p.table ∨ p.place = .late ∧ p.event = .disconnect

/-- The unit knows of the connection. -/
def Peer.linked (p : Peer) : Bool := decide (p.state = .connected)

namespace Peer

variable {p : Peer} {vars : Nat → UInt8}

theorem menu_sound (h : p.Sound) (hplace : p.place = .menu) {asks : List Ask}
    (hasks : ∀ a ∈ asks, a.Fits) :
    (p.menu vars asks).1.Sound ∧ ∀ c ∈ (p.menu vars asks).2, c.Sound := by
  refine ⟨⟨h.present, h.tied, fun hlate => Place.noConfusion hlate, h.table, fun hno => ?_⟩, ?_⟩
  · refine Or.inl ((h.deaf hno).resolve_right fun hlate => ?_)
    rw [hplace] at hlate
    exact Place.noConfusion hlate.1
  · intro c hc
    rcases List.mem_flatMap.mp hc with ⟨a, ha, hca⟩
    exact ask_sound (hasks a ha) c hca

/-- What may come next. -/
def Expects (p : Peer) : Option Cargo → Prop
  | none => True
  | some .up => p.state ≠ .connected
  | some .down => p.state = .connected
  | some (.packet id type payload) => p.state = .connected ∧ (Cargo.packet id type payload).Sound

/-- What comes first, if it is in order. -/
theorem expects_head {l : Bool} {c : Cargo} {cs : List Cargo}
    (h : orderly p.linked (c :: cs) = some l) (hc : c = .up ∨ c = .down ∨ c.Sound) :
    p.Expects (some c) ∧ orderly (p.hear (some c)).linked cs = some l := by
  unfold linked at h
  rcases c with _ | _ | ⟨id, type, payload⟩
  · by_cases hstate : p.state = .connected
    · rw [decide_eq_true hstate] at h
      exact absurd h.symm (Option.some_ne_none l)
    · rw [decide_eq_false hstate] at h
      exact ⟨hstate, h⟩
  · by_cases hstate : p.state = .connected
    · rw [decide_eq_true hstate] at h
      exact ⟨hstate, h⟩
    · rw [decide_eq_false hstate] at h
      exact absurd h.symm (Option.some_ne_none l)
  · by_cases hstate : p.state = .connected
    · rw [decide_eq_true hstate] at h
      refine ⟨⟨hstate, (hc.resolve_left Cargo.noConfusion).resolve_left Cargo.noConfusion⟩, ?_⟩
      have hsame : (p.hear (some (.packet id type payload))).linked = true :=
        decide_eq_true hstate
      rw [hsame]
      exact h
    · rw [decide_eq_false hstate] at h
      exact absurd h.symm (Option.some_ne_none l)

/-- A packet that has been read whole is the one that was sent. -/
theorem has_fits {b : Bt} {id type : UInt8} {payload : List UInt8} (hhas : b.Has id type payload)
    (hsound : (Cargo.packet id type payload).Sound) : b.Fits := by
  intro hid hkind
  rw [hhas.id] at hid
  rw [hhas.type] at hkind
  rw [← Bt.payload_length, hhas.payload]
  exact hsound.2.2.2 hid hkind

theorem hear_tied (h : p.Sound) {c : Option Cargo} :
    (p.hear c).state = .connected ↔ (p.hear c).bt.mode = .data := by
  rcases c with _ | _ | _ | ⟨id, type, payload⟩
  · exact h.tied
  · exact iff_of_true rfl rfl
  · exact iff_of_false State.noConfusion Mode.noConfusion
  · have hmode : (p.hear (some (.packet id type payload))).bt.mode = p.bt.mode :=
      (read_keeps _ _ p.bt).1
    rw [hmode]
    exact h.tied

theorem radio_sound (h : p.Sound) (hplace : p.place = .radio) {c : Option Cargo}
    (hc : p.Expects c) :
    (p.radio c).1.Sound ∧ ∀ d ∈ (p.radio c).2, d.Sound := by
  rcases p.hear_keeps c with ⟨-, htable, -, -, hpresent⟩
  have hcalled : ∀ d ∈ ((p.hear c).table.task (p.hear c).memory).2,
      ∀ e ∈ (p.hear c).notified d, e.Sound := by
    intro d hd
    rcases Notify.task_called hd with ⟨i, hi⟩
    rw [htable] at hi
    rcases d with ⟨_ | _ | _, id⟩
    · exact fun e he => absurd he List.not_mem_nil
    · exact fun e he => absurd he List.not_mem_nil
    · -- The entry is one of those set up for the other unit.
      rcases h.table.entries i hi.1 with ⟨hother, -⟩ | ⟨item, -, hid, -, -⟩
      · exact Listener.noConfusion (hi.2.2.symm.trans hother)
      · have heq : id = item.id.code := hi.2.1.symm.trans hid
        change ∀ e ∈ (p.hear c).remoteNotify id, e.Sound
        rw [heq]
        exact remoteNotify_sound item
  refine ⟨⟨hpresent.trans h.present, hear_tied h, fun _ hdata => ?_, ?_, fun hno => ?_⟩, ?_⟩
  · change (p.hear c).event = .data at hdata
    rcases c with _ | _ | _ | ⟨id, type, payload⟩
    · exact Event.noConfusion hdata
    · exact Event.noConfusion hdata
    · exact Event.noConfusion hdata
    · rcases hc with ⟨hstate, hsound⟩
      rcases hear_packet h.present (h.tied.mp hstate) hsound.1 hsound.2.1 with ⟨hhas, -⟩
      refine ⟨has_fits hhas hsound, ?_, hstate⟩
      change Id.decode (p.hear (some (.packet id type payload))).bt.dataId ≠ _
      rw [hhas.id]
      exact hsound.2.2.1
  · exact tabled_task (htable ▸ h.table) _
  · change (p.hear c).state ≠ .connected at hno
    have hkeep : p.state ≠ .connected → Deaf (p.radio c).1.table := by
      intro hold
      have hdeaf := (h.deaf hold).resolve_right fun hlate => by
        rw [hplace] at hlate
        exact Place.noConfusion hlate.1
      exact deaf_task (htable ▸ hdeaf) _
    rcases c with _ | _ | _ | ⟨id, type, payload⟩
    · exact Or.inl (hkeep hno)
    · exact absurd rfl hno
    · exact Or.inr ⟨rfl, rfl⟩
    · exact Or.inl (hkeep hno)
  · intro d hd
    rcases List.mem_flatMap.mp hd with ⟨e, he, hde⟩
    exact hcalled e he d hde

theorem late_sound (h : p.Sound) (hplace : p.place = .late) :
    (p.late vars).1.Sound ∧ ∀ c ∈ (p.late vars).2, c.Sound := by
  rcases p.late_keeps vars with ⟨-, hmenu, hbt, hstate⟩
  have hfits : p.event = .data → p.bt.Fits ∧ Id.decode p.bt.dataId ≠ some .program := fun hdata =>
    ⟨(h.fits hplace hdata).1, (h.fits hplace hdata).2.1⟩
  have htable : Tabled (p.late vars).1.table ∧ ∀ c ∈ (p.late vars).2, c.Sound := by
    rcases p.late_cases vars with ⟨-, heq⟩ | ⟨-, -, heq⟩ | ⟨-, c, hmakes, heq⟩
    · rw [heq]
      exact ⟨h.table, fun c hc => absurd hc List.not_mem_nil⟩
    · rw [heq]
      exact ⟨h.table, fun c hc => absurd hc List.not_mem_nil⟩
    · rw [heq]
      refine ⟨tabled_call h.table _ fun id item hc => ?_, served_sound hmakes hfits⟩
      rcases hc ▸ hmakes.1 with ⟨-, hsane⟩ | ⟨-, hother⟩ | ⟨-, hother⟩
      · exact hsane
      · exact Remote.Call.noConfusion hother
      · exact Remote.Call.noConfusion hother
  refine ⟨⟨?_, ?_, fun hlate => ?_, htable.1, fun hno => Or.inl ?_⟩, htable.2⟩
  · rw [hbt]
    exact h.present
  · rw [hbt, hstate]
    exact h.tied
  · rw [hmenu] at hlate
    exact Place.noConfusion hlate
  · -- Without a connection the only event that matters is that it is gone.
    rw [hstate] at hno
    have hgone : p.event = .disconnect → (p.refreshed vars).heeded.2.calls = [.unWatchAll] := by
      intro hevent
      unfold heeded Remote.event
      have hradio : (p.refreshed vars).toRadio.event = .disconnect := hevent
      rw [hradio]
      rfl
    rcases p.late_cases vars with ⟨hnull, heq⟩ | ⟨-, hnone, heq⟩ | ⟨-, c, hmakes, heq⟩
    · rw [heq]
      refine (h.deaf hno).resolve_right fun hlate => ?_
      exact Event.noConfusion (hnull.symm.trans hlate.2)
    · rw [heq]
      refine (h.deaf hno).resolve_right fun hlate => ?_
      exact List.cons_ne_nil _ _ ((hgone hlate.2).symm.trans hnone)
    · rw [heq]
      rcases h.deaf hno with hdeaf | ⟨-, hevent⟩
      · rcases hmakes.1 with ⟨hdata, -⟩ | ⟨-, hmodel⟩ | ⟨-, hall⟩
        · exact absurd (h.fits hplace hdata).2.2 hno
        · rw [hmodel]
          exact hdeaf
        · rw [hall]
          exact deaf_unWatch _
      · rw [(List.cons.inj ((hgone hevent).symm.trans hmakes.2)).1.symm]
        exact deaf_unWatch _

end Peer

/-! ### Both units -/

namespace Pair

/-- What holds of both units and of what is underway. -/
structure Sound (s : Pair) : Prop where
  peers : ∀ side, (s.peers side).Sound
  order : ∀ side, orderly (s.peers side).linked (s.inbox side) = some s.linked
  cargo : ∀ side, ∀ c ∈ s.inbox side, c = .up ∨ c = .down ∨ c.Sound

variable {s t : Pair} {side : Side}

theorem boot_sound (remote : Side → Remote) (vars : Side → Nat → UInt8) :
    (boot remote vars).Sound := by
  refine ⟨fun side => ?_, fun _ => rfl, fun _ c hc => absurd hc List.not_mem_nil⟩
  rcases boot_tabled (remote side) (vars side) with ⟨htable, hdeaf⟩
  exact ⟨rfl, iff_of_false State.noConfusion Mode.noConfusion, fun hlate => Place.noConfusion hlate,
    htable, fun _ => Or.inl hdeaf⟩

/-- What a unit sends comes behind what is underway to the other. -/
theorem did_sound {r : Peer × List Cargo} (hr : r.1.Sound) (hsent : ∀ c ∈ r.2, c.Sound)
    (horder : orderly r.1.linked (s.inbox side) = some s.linked)
    (hother : (s.peers side.other).Sound)
    (hrest : orderly (s.peers side.other).linked (s.inbox side.other) = some s.linked)
    (hcargo : ∀ one, ∀ c ∈ s.inbox one, c = .up ∨ c = .down ∨ c.Sound) :
    (s.did side r).Sound := by
  have hne : side ≠ side.other := (Side.other_ne side).symm
  refine ⟨fun one => ?_, fun one => ?_, fun one c hc => ?_⟩
  · by_cases hone : one = side
    · rw [hone]
      simp only [did, Function.update_self]
      exact hr
    · rw [Side.eq_other_of_ne hone]
      simp only [did, Function.update_of_ne (Side.other_ne side)]
      exact hother
  · by_cases hone : one = side
    · rw [hone]
      simp only [did, Function.update_self, Function.update_of_ne hne]
      exact horder
    · rw [Side.eq_other_of_ne hone]
      simp only [did, Function.update_self, Function.update_of_ne (Side.other_ne side)]
      rw [orderly_append, hrest]
      cases hlinked : s.linked with
      | true => exact orderly_packets hsent
      | false => rfl
  · by_cases hone : one = side
    · rw [hone] at hc
      simp only [did, Function.update_of_ne hne] at hc
      exact hcargo side c hc
    · rw [Side.eq_other_of_ne hone] at hc
      simp only [did, Function.update_self] at hc
      rcases List.mem_append.mp hc with hold | hnew
      · exact hcargo _ c hold
      · split at hnew
        · exact Or.inr (Or.inr (hsent c hnew))
        · exact absurd hnew List.not_mem_nil

/-- The two ways `bt.task` goes: something is taken from the inbox, or nothing has come. -/
theorem act_radio {takes : Bool} (h : s.act side (.radio takes) = some t) :
    (s.peers side).place = .radio ∧
      (t = s.did side ((s.peers side).radio none) ∨
        ∃ c cs, s.inbox side = c :: cs ∧
          t = (s.took side).did side ((s.peers side).radio (some c))) := by
  rw [act, Option.ite_none_right_eq_some] at h
  refine ⟨h.1, ?_⟩
  rcases h with ⟨-, h⟩
  split at h
  · cases hinbox : s.inbox side with
    | nil =>
        rw [hinbox] at h
        exact absurd h.symm (Option.some_ne_none t)
    | cons c cs =>
        rw [hinbox] at h
        exact Or.inr ⟨c, cs, rfl, (Option.some.inj h).symm⟩
  · exact Or.inl (Option.some.inj h).symm

/-- What a unit does keeps all of it. -/
theorem act_sound (h : s.Sound) {deed : Deed} (hfits : s.Fits (.act side deed))
    (hstep : s.act side deed = some t) : t.Sound := by
  have hp := h.peers side
  cases deed with
  | menu vars asks =>
      rw [act, Option.ite_none_right_eq_some] at hstep
      rcases hstep with ⟨hplace, hstep⟩
      rw [← Option.some.inj hstep]
      rcases Peer.menu_sound hp hplace hfits with ⟨hr, hsent⟩
      exact did_sound hr hsent (h.order side) (h.peers _) (h.order _) h.cargo
  | radio takes =>
      rcases act_radio hstep with ⟨hplace, rfl | ⟨c, cs, hinbox, rfl⟩⟩
      · rcases Peer.radio_sound hp hplace (c := none) trivial with ⟨hr, hsent⟩
        exact did_sound hr hsent (h.order side) (h.peers _) (h.order _) h.cargo
      · have horder := h.order side
        rw [hinbox] at horder
        rcases Peer.expects_head horder (h.cargo side c (hinbox ▸ List.mem_cons_self))
          with ⟨hexpects, hrest⟩
        rcases Peer.radio_sound hp hplace hexpects with ⟨hr, hsent⟩
        have htook : (s.took side).inbox side = cs := by
          simp only [took, Function.update_self, hinbox, List.tail_cons]
        have hkeep : (s.took side).inbox side.other = s.inbox side.other :=
          Function.update_of_ne (Side.other_ne side) _ _
        refine did_sound hr hsent ?_ (h.peers _) ?_ fun one d hd => ?_
        · rw [htook]
          exact hrest
        · rw [hkeep]
          exact h.order _
        · by_cases hone : one = side
          · rw [hone, htook] at hd
            exact h.cargo side d (hinbox ▸ List.mem_cons_of_mem c hd)
          · rw [Side.eq_other_of_ne hone, hkeep] at hd
            exact h.cargo _ d hd
  | late vars =>
      rw [act, Option.ite_none_right_eq_some] at hstep
      rcases hstep with ⟨hplace, hstep⟩
      rw [← Option.some.inj hstep]
      have hlate : ((s.peers side).late vars).1.Sound ∧
          ∀ c ∈ ((s.peers side).late vars).2, c.Sound := Peer.late_sound hp hplace
      rcases hlate with ⟨hr, hsent⟩
      have hlinked : ((s.peers side).late vars).1.linked = (s.peers side).linked := by
        unfold Peer.linked
        rw [((s.peers side).late_keeps vars).2.2.2]
      refine did_sound hr hsent ?_ (h.peers _) (h.order _) h.cargo
      rw [hlinked]
      exact h.order side

/-- Both are told of the connection. -/
theorem tell_sound (h : s.Sound) {c : Cargo} {linked : Bool} (hc : c = .up ∨ c = .down)
    (horder : orderly s.linked [c] = some linked) :
    ({ s.tell c with linked := linked } : Pair).Sound := by
  refine ⟨h.peers, fun side => ?_, fun side d hd => ?_⟩
  · change orderly (s.peers side).linked (s.inbox side ++ [c]) = some linked
    rw [orderly_append, h.order side]
    exact horder
  · rcases List.mem_append.mp hd with hold | hnew
    · exact h.cargo side d hold
    · rw [List.mem_singleton.mp hnew]
      exact hc.imp_right Or.inl

/-- Every step keeps all of it. -/
theorem step_sound (h : s.Sound) {l : Label} (hfits : s.Fits l) (hstep : s.step l = some t) :
    t.Sound := by
  cases l with
  | act side deed => exact act_sound h hfits hstep
  | lose side i =>
      rw [step] at hstep
      cases hi : (s.inbox side)[i]? with
      | none =>
          rw [hi] at hstep
          exact absurd hstep.symm (Option.some_ne_none t)
      | some c =>
          rw [hi] at hstep
          rcases c with _ | _ | ⟨id, type, payload⟩
          · exact absurd hstep.symm (Option.some_ne_none t)
          · exact absurd hstep.symm (Option.some_ne_none t)
          · rw [← Option.some.inj hstep]
            refine ⟨h.peers, fun one => ?_, fun one c hc => ?_⟩
            · by_cases hone : one = side
              · rw [hone]
                simp only [Function.update_self]
                exact orderly_erase (h.order side) hi
              · simp only [Function.update_of_ne hone]
                exact h.order one
            · by_cases hone : one = side
              · rw [hone] at hc
                simp only [Function.update_self] at hc
                exact h.cargo side c (List.mem_of_mem_eraseIdx hc)
              · simp only [Function.update_of_ne hone] at hc
                exact h.cargo one c hc
  | hangUp =>
      rw [step, Option.ite_none_right_eq_some] at hstep
      rw [← Option.some.inj hstep.2]
      refine tell_sound h (Or.inr rfl) ?_
      rw [hstep.1]
      rfl
  | connect =>
      rw [step, Option.ite_none_left_eq_some, Bool.not_eq_true] at hstep
      rw [← Option.some.inj hstep.2]
      refine tell_sound h (Or.inl rfl) ?_
      rw [hstep.1]
      rfl

/-- So it holds in every state that two units come to. -/
theorem run_sound {remote : Side → Remote} {vars : Side → Nat → UInt8}
    (h : Run step Fits (boot remote vars) s) : s.Sound :=
  h.invariant Sound (fun _ _ _ hs hfits hstep => step_sound hs hfits hstep)
    (boot_sound remote vars)

/-- A pass of the main loop in which the next thing that has come is read. -/
def pass (side : Side) (vars : Nat → UInt8) (asks : List Ask) : List Label :=
  [.act side (.menu vars asks), .act side (.radio true), .act side (.late vars)]

/-- There is a connection, and the unit on the right has the battery of the other one
    watched. -/
def connecting : List Label :=
  .connect :: (pass .right (fun _ => 0) [] ++ pass .left (fun _ => 0) [] ++
    pass .left (fun _ => 0) [] ++ [.act .right (.menu (fun _ => 0) [.watch .battery])] ++
    pass .left (fun _ => 0) [])

end Pair

end Bluetooth

end TimelapsePlus
