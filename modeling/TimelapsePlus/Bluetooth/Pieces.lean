import TimelapsePlus.Bluetooth.Orders

/-!
# Orders in Part

An order is given to the driver in pieces, and the driver drops a piece when the module is
not ready to take it, without saying so. So of a line some pieces may be missing, its head
or its end among them. What is left of a move might be another one, for a motor that should
stay where it is. It is not. Whatever the module takes of a move, either it is all of it but
perhaps the end of the line, or it moves nothing.

What the other commands come to in part is not said. Their data can make up for what is
missing: the address of a motor is dropped, and its command taken for the address.

## Theorems

* `nmx_moves`, `genie_moves`: The number of bytes of an order that moves a motor.
* `order_of_kept`: What is left of a line.
* `parts_move_nothing`: A move in part is none.
-/

namespace TimelapsePlus

namespace Bluetooth

open Nmx

namespace Rig

variable {r : Rig}

/-- A line in digits alone is no order. -/
theorem order_hexText (bytes : List UInt8) : order (hexText bytes) = none := by
  refine Radio.order_none fun heq => ?_
  have hmem : 'T' ∈ hexText bytes := by
    refine List.mem_of_mem_take (i := 4) ?_
    rw [heq]
    decide
  rcases List.mem_flatMap.mp hmem with ⟨b, -, hb⟩
  have hdigit : ∀ d : UInt8, d < 16 → hexChar d ≠ 'T' := by
    intro d hd heq
    have hread := hexDigit_hexChar hd
    rw [heq] at hread
    cases hread
  rcases List.mem_cons.mp hb with heq | hb
  · exact hdigit _ (high_lt b) heq.symm
  · exact hdigit _ (low_lt b) (List.mem_singleton.mp hb).symm

/-- What begins with the one head does not begin with the other. -/
theorem genieOrder_nmxHead (text : List Char) : genieOrder (nmxHead ++ text) = none := by
  unfold genieOrder
  rw [bytesBehind_none]
  rw [List.take_append_of_le_length (by decide)]
  decide

theorem nmxOrder_genieHead (text : List Char) : nmxOrder (genieHead ++ text) = none := by
  unfold nmxOrder
  rw [bytesBehind_none]
  intro heq
  have htake := congrArg (List.take genieHead.length) heq
  rw [List.take_take, Nat.min_eq_left (by decide), List.take_left] at htake
  exact absurd htake (by decide)

/-- An order to an NMX controller that moves a motor has nine bytes. -/
theorem nmx_moves {bytes : List UInt8} {o : Order} (h : order (nmxHead ++ hexText bytes) = some o)
    {w : Which} (hmoves : o.steps w ≠ 0) : bytes.length = 9 := by
  unfold order at h
  rw [genieOrder_nmxHead, Option.or_none] at h
  unfold nmxOrder at h
  rw [bytesBehind_append] at h
  match bytes, h with
  | node :: motor :: command :: dataLength :: data, h =>
      simp only at h
      split at h
      · rw [← Option.some.inj h] at hmoves
        match data, hmoves with
        | [_, _, _, _, _], _ => rfl
        | [], hmoves => exact absurd rfl hmoves
        | [_], hmoves => exact absurd rfl hmoves
        | [_, _], hmoves => exact absurd rfl hmoves
        | [_, _, _], hmoves => exact absurd rfl hmoves
        | [_, _, _, _], hmoves => exact absurd rfl hmoves
        | _ :: _ :: _ :: _ :: _ :: _ :: _, hmoves => exact absurd rfl hmoves
      · cases h

/-- One to a Genie Mini has five. -/
theorem genie_moves {bytes : List UInt8} {o : Order}
    (h : order (genieHead ++ hexText bytes) = some o) : bytes.length = 5 := by
  unfold order at h
  rw [nmxOrder_genieHead, Option.none_or] at h
  unfold genieOrder at h
  rw [bytesBehind_append] at h
  match bytes, h with
  | [_, _, _, _, _], _ => rfl

/-- A line that has not ended is looked at as well. -/
theorem order_of_mem {text rest : List Char} {o : Order} (hcr : '\r' ∉ text)
    (hrest : rest = [] ∨ rest = ['\r']) (h : o ∈ orders (text ++ rest)) : order text = some o := by
  have hone : orders (text ++ ['\r']) = [text].filterMap order := by
    rw [← orders_lines [text] fun line hline => by rwa [List.mem_singleton.mp hline],
      List.flatMap_singleton]
  have hopen : orders text = [text].filterMap order := by
    unfold orders
    rw [List.splitOn_eq_splitOnP, List.splitOnP_eq_singleton]
    exact fun c hc => beq_false_of_ne fun heq => hcr (heq ▸ hc)
  have hmem : o ∈ [text].filterMap order := by
    rcases hrest with rfl | rfl
    · rwa [List.append_nil, hopen] at h
    · rwa [hone] at h
  rcases List.mem_filterMap.mp hmem with ⟨line, hline, hsome⟩
  rwa [List.mem_singleton.mp hline] at hsome

/-- Of the pieces of a line some are left. If what is left moves a motor, all of the bytes
    are there. -/
theorem order_of_kept {head : List Char} {bytes : List UInt8} {kept : List (List Char)} {o : Order}
    (hcr : '\r' ∉ head) (hkept : kept.Sublist ([head] ++ bytes.map uint8tohex ++ [['\r']]))
    (hmem : o ∈ orders kept.flatten)
    (hwhole : ∀ bs, order (head ++ hexText bs) = some o → bs.length = bytes.length) :
    order (head ++ hexText bytes) = some o := by
  rcases List.sublist_append_iff.mp hkept with ⟨front, last, rfl, hfront, hlast⟩
  rcases List.sublist_append_iff.mp hfront with ⟨first, digits, rfl, hfirst, hdigits⟩
  rcases List.sublist_map_iff.mp hdigits with ⟨bs, hbs, rfl⟩
  have hend : last.flatten = [] ∨ last.flatten = ['\r'] := by
    rcases List.sublist_singleton.mp hlast with rfl | rfl
    · exact Or.inl rfl
    · exact Or.inr rfl
  have htext : (bs.map uint8tohex).flatten = hexText bs := rfl
  rw [List.flatten_append, List.flatten_append, htext] at hmem
  rcases List.sublist_singleton.mp hfirst with rfl | rfl
  · -- The head is gone.
    rw [List.flatten_nil, List.nil_append] at hmem
    have hnone := order_of_mem (cr_notMem_hexText bs) hend hmem
    rw [order_hexText] at hnone
    cases hnone
  · rw [List.flatten_singleton] at hmem
    have hsome := order_of_mem
      (fun h => (List.mem_append.mp h).elim hcr (cr_notMem_hexText bs)) hend hmem
    rwa [hbs.eq_of_length (hwhole bs hsome)] at hsome

/-- A piece is taken as a whole or not at all. -/
theorem send_sent (s : Radio) (text : List Char) :
    (s.send text).sent = s.sent ∨ (s.send text).sent = s.sent ++ [text] := by
  unfold Radio.send
  by_cases hpresent : s.bt.present = false
  · rw [if_pos hpresent]
    exact Or.inl rfl
  · rw [if_neg hpresent]
    by_cases hwake : s.wakes.headD .ready = .never
    · exact Or.inl (if_pos hwake)
    · exact Or.inr (if_neg hwake)

/-- The module takes some of the pieces, whatever it does. -/
theorem pieces_kept (texts : List (List Char)) {s : Radio} (hcmd : s.bt.mode = .cmd) :
    ∃ kept : List (List Char), kept.Sublist texts ∧
      (texts.foldl Radio.sendCMD s).checkOK.1.sent = s.sent ++ kept := by
  rw [Radio.checkOK_sent]
  induction texts generalizing s with
  | nil => exact ⟨[], List.Sublist.slnil, (List.append_nil _).symm⟩
  | cons text texts ih =>
      rw [List.foldl_cons, Radio.sendCMD_cmd s text hcmd]
      rcases ih (s := s.send text) (by rw [Radio.send_bt]; exact hcmd) with ⟨kept, hkept, hsent⟩
      rcases send_sent s text with hlost | htaken
      · exact ⟨kept, hkept.cons text, by rw [hsent, hlost]⟩
      · exact ⟨text :: kept, hkept.cons_cons text, by
          rw [hsent, htaken, List.append_assoc, List.singleton_append]⟩

/-- Whatever the module takes of a move, an order that can be read off what is left and that
    moves any motor is the move itself. -/
theorem parts_move_nothing (htied : r.radio.Tied) (w : Which) (dir : UInt8) (steps : UInt32) :
    (∃ text, (r.sendCommand w 0xF (dir :: (littleEndian steps).reverse)).1.radio.sent.flatten =
        r.radio.sent.flatten ++ text ∧
      ∀ o ∈ orders text, ∀ w', o.steps w' ≠ 0 →
        o = .nmx nodeAddress w.motorAddress 0xF (dir :: (littleEndian steps).reverse)) ∧
    (r.radio.state = .connectedGm → ∃ text,
      (r.genieMove dir steps).1.radio.sent.flatten = r.radio.sent.flatten ++ text ∧
        ∀ o ∈ orders text, o.steps .motor1 ≠ 0 → o = .genie (gmSteps dir steps) dir) := by
  constructor
  · cases hlinked : r.linked with
    | false =>
        unfold sendCommand
        rw [sendCommandGeneral_unlinked hlinked]
        exact ⟨[], (List.append_nil _).symm, fun o ho => absurd ho List.not_mem_nil⟩
    | true =>
        rcases sendCommandGeneral_pieces hlinked nodeAddress w.motorAddress 0xF
          (dir :: (littleEndian steps).reverse) with ⟨ok, heq⟩
        rcases pieces_kept _ (linked_cmd htied hlinked) with ⟨kept, hkept, hsent⟩
        unfold sendCommand
        rw [heq]
        refine ⟨kept.flatten, ?_, fun o ho w' hmoves => ?_⟩
        · rw [← List.flatten_append, ← hsent]
        · have hfits : (Order.nmx nodeAddress w.motorAddress 0xF
              (dir :: (littleEndian steps).reverse)).Fits := by
            show 5 < 256
            decide
          have hwhole := order_of_kept (by decide) hkept ho fun bs hbs => nmx_moves hbs hmoves
          exact Option.some.inj (hwhole.symm.trans (order_line hfits))
  · intro hgm
    rcases pieces_kept _ (genie_cmd htied hgm) with ⟨kept, hkept, hsent⟩
    refine ⟨kept.flatten, ?_, fun o ho _ => ?_⟩
    · rw [genieMove_pieces, ← List.flatten_append, ← hsent]
    · have hwhole := order_of_kept (by decide) hkept ho fun bs hbs => genie_moves hbs
      exact Option.some.inj (hwhole.symm.trans (order_line (o := .genie _ _) trivial))

/-- The address of the motor is not taken, and neither is the end of the line. -/
def deafened : Rig :=
  { ready with
    radio :=
      { ready.radio with
        wakes := [.ready, .ready, .never, .ready, .ready, .ready, .ready, .ready, .ready, .ready,
          .never] } }

/-- Nothing is moved by the rest. -/
theorem parts_move_nothing_address : ∃ text,
    (deafened.sendCommand .motor1 0xF (0 :: (littleEndian 1000).reverse)).1.radio.sent.flatten =
        [] ++ text ∧
      ∀ o ∈ orders text, ∀ w, o.steps w ≠ 0 →
        o = .nmx nodeAddress 1 0xF (0 :: (littleEndian 1000).reverse) :=
  (parts_move_nothing (r := deafened) (Radio.tied_cmd rfl) .motor1 0 1000).1

end Rig

end Bluetooth

end TimelapsePlus
