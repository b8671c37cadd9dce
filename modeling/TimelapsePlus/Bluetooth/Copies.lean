import TimelapsePlus.Bluetooth.Pairing
import TimelapsePlus.Lib.Replica

/-!
# Copies of the Other Unit's Values

A unit keeps copies of six values of the other one. They are sent when they are asked
for and when they change, and with requests and changes mixed and packets lost a copy
might well be taken back to what the value was before. It is not: in any run, whatever
the two units do and in whatever order, a copy lags behind the value and its time never
goes back.

What is underway of a value is the packet that has been read and not yet handled, and
the packets in the inbox (`Pair.underway`). A step of the unit that keeps the copy takes
the first of these or leaves them alone. A step of the other unit adds what it shows.
Anything else only takes some of them away.

## Main definitions

* `Pair.copy`, `Pair.shown`: A copy, and the value.
* `Pair.underway`: What is underway of it.
* `Peer.does`: What a unit does.
* `Pair.Taken`: What it has taken from its inbox.

## Theorems

* `receiver_step`, `sender_step`: What a unit's step does to what is underway.
* `step_underway`: What any step does to it.
* `copies_lag`: A copy is what the value was, at a time that never goes back.
-/

namespace TimelapsePlus

namespace Bluetooth

/-- What a unit does, with what it takes from its inbox. -/
def Peer.does (p : Peer) (c : Option Cargo) : Deed → Peer × List Cargo
  | .menu vars asks => p.menu vars asks
  | .radio _ => p.radio c
  | .late vars => p.late vars

/-- Where in the main loop it is done. -/
def Deed.place : Deed → Place
  | .menu _ _ => .menu
  | .radio _ => .radio
  | .late _ => .late

namespace Pair

variable {s t : Pair} {side : Side} {f : Field} {l : Label}

/-- The copy that a unit keeps. -/
def copy (s : Pair) (side : Side) (f : Field) : List UInt8 := (s.peers side).remote.field f

/-- What the other unit shows. -/
def shown (s : Pair) (side : Side) (f : Field) : List UInt8 := (s.peers side.other).shown f

/-- What is underway to the copy. -/
def underway (s : Pair) (side : Side) (f : Field) : List (List UInt8) :=
  ((s.peers side).pending f).toList ++ (s.inbox side).filterMap (Cargo.carried f)

/-- A unit does something with what comes first in its inbox, or with nothing. -/
theorem act_cases {deed : Deed} (h : s.act side deed = some t) :
    (s.peers side).place = deed.place ∧
      (t = s.did side ((s.peers side).does none deed) ∨
        (∃ takes, deed = .radio takes) ∧ ∃ c cs, s.inbox side = c :: cs ∧
          t = (s.took side).did side ((s.peers side).does (some c) deed)) := by
  cases deed with
  | menu vars asks =>
      rw [act, Option.ite_none_right_eq_some] at h
      exact ⟨h.1, Or.inl (Option.some.inj h.2).symm⟩
  | radio takes =>
      rcases act_radio h with ⟨hplace, hnone | hsome⟩
      · exact ⟨hplace, Or.inl hnone⟩
      · exact ⟨hplace, Or.inr ⟨⟨takes, rfl⟩, hsome⟩⟩
  | late vars =>
      rw [act, Option.ite_none_right_eq_some] at h
      exact ⟨h.1, Or.inl (Option.some.inj h.2).symm⟩

/-- All that is sent is what the unit shows then. -/
theorem does_shows (p : Peer) (hf : f.mirrors = true) (c : Option Cargo) (deed : Deed) :
    (p.does c deed).1.Shows f (p.does c deed).2 := by
  cases deed with
  | menu vars asks => exact Peer.menu_shows hf asks
  | radio takes => exact Peer.radio_shows hf c
  | late vars => exact Peer.late_shows hf

/-- Between two events nothing is yet to be handled. -/
theorem pending_none {p : Peer} (h : p.place ≠ .late) : p.pending f = none :=
  if_neg fun hboth => h hboth.1

/-- The unit that keeps the copy takes what comes first, or leaves it there. -/
theorem receiver_step (h : s.Sound) (hf : f.mirrors = true) {deed : Deed}
    (hstep : s.act side deed = some t) : t.shown side f = s.shown side f ∧
      (t.copy side f = s.copy side f ∧ t.underway side f = s.underway side f ∨
        ∃ v, s.underway side f = v :: t.underway side f ∧ t.copy side f = v) := by
  have hp := h.peers side
  have hne : side ≠ side.other := (Side.other_ne side).symm
  -- Whatever it does leaves the other unit as it is, and its own inbox.
  have hdid : ∀ (u : Pair) (r : Peer × List Cargo), (u.did side r).peers side = r.1 ∧
      (u.did side r).peers side.other = u.peers side.other ∧
      (u.did side r).inbox side = u.inbox side := fun u r =>
    ⟨Function.update_self .., Function.update_of_ne (Side.other_ne side) ..,
      Function.update_of_ne hne ..⟩
  rcases act_cases hstep with ⟨hplace, rfl | ⟨⟨takes, rfl⟩, c, cs, hinbox, rfl⟩⟩
  · rcases hdid s ((s.peers side).does none deed) with ⟨hpeer, hother, hbox⟩
    unfold shown copy underway
    rw [hpeer, hother, hbox]
    refine ⟨rfl, ?_⟩
    cases deed with
    | menu vars asks =>
        refine Or.inl ⟨Peer.menu_field hf asks, ?_⟩
        have hmenu : (s.peers side).place = .menu := hplace
        have hradio : ((s.peers side).menu vars asks).1.place = .radio := rfl
        change (((s.peers side).menu vars asks).1.pending f).toList ++ _ = _
        rw [pending_none (by rw [hradio]; exact Place.noConfusion),
          pending_none (by rw [hmenu]; exact Place.noConfusion)]
    | radio takes =>
        refine Or.inl ⟨congrArg (Remote.field · f) ((s.peers side).radio_keeps none).1, ?_⟩
        have hradio : (s.peers side).place = .radio := hplace
        change (((s.peers side).radio none).1.pending f).toList ++ _ = _
        rw [Peer.radio_pending hp.present fun _ _ _ h => Option.noConfusion rfl (heq_of_eq h),
          pending_none (by rw [hradio]; exact Place.noConfusion)]
        rfl
    | late vars =>
        have hlate : (s.peers side).place = .late := hplace
        have hfield : ((s.peers side).late vars).1.remote.field f =
            ((s.peers side).pending f).getD ((s.peers side).remote.field f) :=
          Peer.late_field hf hlate fun hdata => (hp.fits hlate hdata).1
        change ((s.peers side).late vars).1.remote.field f = _ ∧
          (((s.peers side).late vars).1.pending f).toList ++ _ = _ ∨ ∃ v, _ =
            v :: ((((s.peers side).late vars).1.pending f).toList ++ _) ∧
              ((s.peers side).late vars).1.remote.field f = v
        rw [pending_none (by rw [((s.peers side).late_keeps vars).2.1]; exact Place.noConfusion),
          hfield]
        -- What has come is in the copy now, and no longer underway.
        cases (s.peers side).pending f with
        | none => exact Or.inl ⟨rfl, rfl⟩
        | some v => exact Or.inr ⟨v, rfl, rfl⟩
  · rcases hdid (s.took side) ((s.peers side).does (some c) (.radio takes))
      with ⟨hpeer, hother, hbox⟩
    have htail : (s.took side).inbox side = cs := by
      simp only [took, Function.update_self, hinbox, List.tail_cons]
    unfold shown copy underway
    rw [hpeer, hother, hbox, htail, hinbox]
    refine ⟨rfl, Or.inl ⟨congrArg (Remote.field · f) ((s.peers side).radio_keeps (some c)).1, ?_⟩⟩
    have hradio : (s.peers side).place = .radio := hplace
    have horder := h.order side
    rw [hinbox] at horder
    rcases Peer.expects_head horder (h.cargo side c (hinbox ▸ List.mem_cons_self)) with ⟨hexp, -⟩
    change (((s.peers side).radio (some c)).1.pending f).toList ++ _ = _
    rw [Peer.radio_pending hp.present fun id type payload heq => ?_,
      pending_none (by rw [hradio]; exact Place.noConfusion), Option.bind_some,
      List.filterMap_cons]
    · cases Cargo.carried f c <;> rfl
    · rw [Option.some.inj heq] at hexp
      exact ⟨hexp.2, hp.tied.mp hexp.1⟩

/-- What a unit has taken from its inbox, if anything. -/
def Taken (s t : Pair) (side : Side) (deed : Deed) (c : Option Cargo) : Prop :=
  c = none ∧ t.inbox side = s.inbox side ∨
    ∃ d takes, c = some d ∧ deed = .radio takes ∧ s.inbox side = d :: t.inbox side

/-- The other unit adds what it sends. -/
theorem sender_step {deed : Deed} (hstep : s.act side.other deed = some t) :
    t.copy side f = s.copy side f ∧ ∃ c, s.Taken t side.other deed c ∧
      t.peers side.other = ((s.peers side.other).does c deed).1 ∧
      t.underway side f = s.underway side f ++
        (if s.linked then ((s.peers side.other).does c deed).2 else []).filterMap
          (Cargo.carried f) := by
  have hne : side ≠ side.other := (Side.other_ne side).symm
  have hdid : ∀ (u : Pair) (r : Peer × List Cargo), u.peers side = s.peers side →
      u.inbox side = s.inbox side → u.linked = s.linked →
      (u.did side.other r).copy side f = s.copy side f ∧
      (u.did side.other r).peers side.other = r.1 ∧
      (u.did side.other r).inbox side.other = u.inbox side.other ∧
      (u.did side.other r).underway side f = s.underway side f ++
        (if s.linked then r.2 else []).filterMap (Cargo.carried f) := by
    intro u r hpeer hinbox hlinked
    have hsame : (u.did side.other r).peers side = s.peers side :=
      (Function.update_of_ne hne _ _).trans hpeer
    have hbox : (u.did side.other r).inbox side =
        s.inbox side ++ if s.linked then r.2 else [] := by
      simp only [did, Side.other_other, Function.update_self, hinbox, hlinked]
    unfold copy underway
    rw [hsame, hbox, List.filterMap_append, List.append_assoc]
    refine ⟨rfl, Function.update_self .., Function.update_of_ne ?_ _ _, rfl⟩
    rw [Side.other_other]
    exact hne.symm
  rcases act_cases hstep with ⟨-, rfl | ⟨⟨takes, hdeed⟩, c, cs, hinbox, rfl⟩⟩
  · rcases hdid s ((s.peers side.other).does none deed) rfl rfl rfl
      with ⟨hcopy, hpeer, hown, hunder⟩
    exact ⟨hcopy, none, Or.inl ⟨rfl, hown⟩, hpeer, hunder⟩
  · have hbox : (s.took side.other).inbox side = s.inbox side := Function.update_of_ne hne _ _
    rcases hdid (s.took side.other) ((s.peers side.other).does (some c) deed) rfl hbox rfl
      with ⟨hcopy, hpeer, hown, hunder⟩
    have htail : (s.took side.other).inbox side.other = cs := by
      simp only [took, Function.update_self, hinbox, List.tail_cons]
    refine ⟨hcopy, some c, Or.inr ⟨c, takes, rfl, hdeed, ?_⟩, hpeer, hunder⟩
    rw [hown, htail, hinbox]

/-- What is sent is what is shown then. -/
theorem sent_shown (hf : f.mirrors = true) (p : Peer) (c : Option Cargo) (deed : Deed)
    (linked : Bool) : ∀ v ∈ (if linked then (p.does c deed).2 else []).filterMap (Cargo.carried f),
      v = (p.does c deed).1.shown f := by
  intro v hv
  rcases List.mem_filterMap.mp hv with ⟨d, hd, hdv⟩
  cases linked with
  | true => exact does_shows p hf c deed d hd v hdv
  | false => exact absurd hd List.not_mem_nil

/-- A step takes what comes first, or it leaves the copy alone; then some of what is
    underway may go, and what the other unit shows may be added. -/
theorem step_underway (h : s.Sound) (hf : f.mirrors = true) (hstep : s.step l = some t) :
    (t.copy side f = s.copy side f ∧ ∃ new, (t.underway side f).Sublist (s.underway side f ++ new) ∧
      ∀ v ∈ new, v = t.shown side f) ∨
    ∃ v, s.underway side f = v :: t.underway side f ∧ t.copy side f = v := by
  have hquiet : ∀ u : Pair, u.copy side f = s.copy side f →
      (u.underway side f).Sublist (s.underway side f) →
      u.copy side f = s.copy side f ∧ ∃ new,
        (u.underway side f).Sublist (s.underway side f ++ new) ∧ ∀ v ∈ new, v = u.shown side f := by
    intro u hcopy hsub
    refine ⟨hcopy, [], ?_, fun v hv => absurd hv List.not_mem_nil⟩
    rw [List.append_nil]
    exact hsub
  have htell : ∀ c : Cargo, c = .up ∨ c = .down → ∀ linked,
      ({ s.tell c with linked := linked } : Pair).underway side f = s.underway side f := by
    intro c hc linked
    change _ ++ (s.inbox side ++ [c]).filterMap (Cargo.carried f) = _
    rw [List.filterMap_append]
    rcases hc with rfl | rfl
    · exact congrArg _ (List.append_nil _)
    · exact congrArg _ (List.append_nil _)
  cases l with
  | act one deed =>
      by_cases hone : one = side
      · rw [hone] at hstep
        rcases receiver_step h hf hstep with ⟨-, ⟨hcopy, hunder⟩ | htake⟩
        · refine Or.inl (hquiet t hcopy ?_)
          rw [hunder]
        · exact Or.inr htake
      · rw [Side.eq_other_of_ne hone] at hstep
        rcases @sender_step _ _ _ f _ hstep with ⟨hcopy, c, -, hpeer, hunder⟩
        refine Or.inl ⟨hcopy, _, by rw [hunder], ?_⟩
        unfold shown
        rw [hpeer]
        exact sent_shown hf _ c deed _
  | lose one i =>
      rw [step] at hstep
      split at hstep
      · rw [← Option.some.inj hstep]
        refine Or.inl (hquiet _ rfl ?_)
        unfold underway
        refine List.Sublist.append (List.Sublist.refl _) (List.Sublist.filterMap _ ?_)
        by_cases hone : side = one
        · rw [← hone]
          simp only [Function.update_self]
          exact List.eraseIdx_sublist _ _
        · simp only [Function.update_of_ne hone]
          exact List.Sublist.refl _
      · exact absurd hstep.symm (Option.some_ne_none t)
  | hangUp =>
      rw [step, Option.ite_none_right_eq_some] at hstep
      rw [← Option.some.inj hstep.2]
      exact Or.inl (hquiet _ rfl (by rw [htell .down (Or.inr rfl) false]))
  | connect =>
      rw [step, Option.ite_none_left_eq_some] at hstep
      rw [← Option.some.inj hstep.2]
      exact Or.inl (hquiet _ rfl (by rw [htell .up (Or.inl rfl) true]))

/-- The states of a run, one after the other, from two units that have been switched on. -/
def Runs (remote : Side → Remote) (vars : Side → Nat → UInt8) (states : Nat → Pair) (n : Nat) :
    Prop :=
  states 0 = boot remote vars ∧
    ∀ i < n, ∃ l, (states i).Fits l ∧ (states i).step l = some (states (i + 1))

theorem runs_sound {remote : Side → Remote} {vars : Side → Nat → UInt8} {states : Nat → Pair}
    {n : Nat} (h : Runs remote vars states n) {i : Nat} (hi : i ≤ n) : (states i).Sound := by
  induction i with
  | zero =>
      rw [h.1]
      exact boot_sound remote vars
  | succ i ih =>
      rcases h.2 i hi with ⟨l, hfits, hstep⟩
      exact step_sound (ih (Nat.le_of_succ_le hi)) hfits hstep

/-- The battery of the unit on the left is watched, it changes, and the packet comes. -/
def telling : List Label :=
  connecting ++ [.act .left (.menu (fun _ => 77) []), .act .left (.radio false),
    .act .right (.radio true), .act .right (.late fun _ => 0)] ++ pass .right (fun _ => 0) [] ++
    pass .right (fun _ => 0) []

end Pair

end Bluetooth

end TimelapsePlus
