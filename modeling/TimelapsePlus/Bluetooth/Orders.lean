import TimelapsePlus.Lib.Run
import TimelapsePlus.Bluetooth.Modes
import TimelapsePlus.Bluetooth.Controller

/-!
# The Orders on the Line

Orders go out between everything else that the driver writes: lines about the connection,
requests for an answer, and what `task` writes by itself while an answer is waited for. In
any run, whatever arrives and whenever, what has been written can be cut into lines again,
and the orders among them are those that were given, in their order. Nothing else that the
driver writes is one.

So the positions of the motors can be compared with what their controller has been told. A
position is where the motor was and the steps of all orders for it, acknowledged or not,
and besides the steps for which there was no order, since the link was gone. With a link
that holds it is right, in a word: the acknowledgement does not matter to it.

The module is asked to take what it is given (`Radio.Ready`). The driver drops a piece of
a line when it does not.

## Main definitions

* `Radio.Ready`: The module takes what it is given.
* `Idle`: Text that is one line and no order.
* `Radio.Chats`: Only such lines are written.
* `Rig.Call.Fits`, `Rig.Fits`: What is asked of a call.
* `Rig.Sound`: The invariant.

## Theorems

* `Chats.command` and its like: The driver writes no order by itself.
* `sendCommandGeneral_writes`, `genieMove_writes`: An order is one line.
* `step_sound`: Every call keeps the invariant.
* `orders_heard`: The orders on the line are those that were given.
* `positions_told`: A position is the sum of the orders and of what was missed.
-/

namespace TimelapsePlus

namespace Bluetooth

open Nmx

/-! ### Words -/

theorem position_ext {p q : Position} (h : p.val = q.val) : p = q := by
  cases p
  cases q
  cases h
  rfl

/-- Numbers that are the same in a word are the same position. -/
theorem wrap_congr {a b : Int} (h : a % 4294967296 = b % 4294967296) :
    Position.wrap a = .wrap b := by
  refine position_ext ?_
  simp only [Position.wrap]
  omega

/-- What is added to a position may be added before. -/
theorem wrap_add (a b : Int) : Position.wrap ((Position.wrap a).val + b) = .wrap (a + b) := by
  refine wrap_congr ?_
  simp only [Position.wrap]
  omega

/-! ### Lines -/

/-- What is written ends a line, and the line is no order. -/
def Idle (text : List Char) : Prop :=
  text.getLast? = some '\r' ∧ '\r' ∉ text.dropLast ∧ order text.dropLast = none

instance (text : List Char) : Decidable (Idle text) :=
  inferInstanceAs (Decidable (_ ∧ _ ∧ _))

/-- Lines that are written one after the other are found again. -/
theorem orders_lines (lines : List (List Char)) (h : ∀ line ∈ lines, '\r' ∉ line) :
    orders (lines.flatMap (· ++ ['\r'])) = lines.filterMap order := by
  unfold orders
  induction lines with
  | nil => rfl
  | cons line lines ih =>
      have hline : ∀ c ∈ line, (c == '\r') = false := by
        intro c hc
        refine beq_false_of_ne fun heq => h line List.mem_cons_self ?_
        rwa [← heq]
      rw [List.flatMap_cons, List.append_assoc, List.singleton_append, List.splitOn_eq_splitOnP,
        List.splitOnP_append_cons_of_forall_mem hline _ (beq_self_eq_true _),
        ← List.splitOn_eq_splitOnP, List.filterMap_cons, List.filterMap_cons,
        ih fun l hl => h l (List.mem_cons_of_mem _ hl)]

namespace Radio

/-- The module is there, and takes what it is given. -/
def Ready (s : Radio) : Prop := s.bt.present = true ∧ ∀ wake ∈ s.wakes, wake ≠ .never

/-- Between two states so many whole lines are written, and the module stays ready. -/
structure Writes (s t : Radio) (lines : List (List Char)) : Prop where
  ready : t.Ready
  text : t.sent.flatten = s.sent.flatten ++ lines.flatMap (· ++ ['\r'])
  whole : ∀ line ∈ lines, '\r' ∉ line

/-- Only lines that are no orders are written. -/
def Chats (s t : Radio) : Prop :=
  s.Ready → ∃ lines, s.Writes t lines ∧ ∀ line ∈ lines, order line = none

section Sending

variable {s t u : Radio}

theorem Writes.trans {lines lines' : List (List Char)} (h : s.Writes t lines)
    (h' : t.Writes u lines') : s.Writes u (lines ++ lines') where
  ready := h'.ready
  text := by rw [h'.text, h.text, List.flatMap_append, List.append_assoc]
  whole := fun line hline => (List.mem_append.mp hline).elim (h.whole line) (h'.whole line)

/-- What is given to the module is written. -/
theorem send_ready (h : s.Ready) (text : List Char) :
    (s.send text).Ready ∧ (s.send text).sent = s.sent ++ [text] := by
  have hpresent : s.bt.present ≠ false := by
    rw [h.1]
    exact Bool.true_eq_false_eq_False
  have hwake : s.wakes.headD .ready ≠ .never := by
    cases hwakes : s.wakes with
    | nil => exact Wake.noConfusion
    | cons wake wakes => exact h.2 wake (by rw [hwakes]; exact List.mem_cons_self)
  unfold send
  rw [if_neg hpresent]
  exact ⟨⟨h.1, fun wake hmem => h.2 wake (List.mem_of_mem_tail hmem)⟩, if_neg hwake⟩

theorem Chats.refl (s : Radio) : s.Chats s :=
  fun h => ⟨[], ⟨h, (List.append_nil _).symm, fun _ hline => absurd hline List.not_mem_nil⟩,
    fun _ hline => absurd hline List.not_mem_nil⟩

theorem Chats.trans (h : s.Chats t) (h' : t.Chats u) : s.Chats u := by
  intro hready
  rcases h hready with ⟨lines, hwrites, hnone⟩
  rcases h' hwrites.ready with ⟨lines', hwrites', hnone'⟩
  exact ⟨lines ++ lines', hwrites.trans hwrites',
    fun line hline => (List.mem_append.mp hline).elim (hnone line) (hnone' line)⟩

/-- Only what is written matters, and whether the module is ready. -/
theorem Chats.congr (h : s.Chats t) (hsent : u.sent = t.sent) (hwakes : u.wakes = t.wakes)
    (hpresent : u.bt.present = t.bt.present) : s.Chats u := by
  intro hready
  rcases h hready with ⟨lines, hwrites, hnone⟩
  refine ⟨lines, ⟨⟨?_, ?_⟩, ?_, hwrites.whole⟩, hnone⟩
  · rw [hpresent]
    exact hwrites.ready.1
  · rw [hwakes]
    exact hwrites.ready.2
  · rw [hsent]
    exact hwrites.text

theorem Chats.read (h : s.Chats t) : s.Chats t.read.1 :=
  h.congr rfl rfl (read_present t)

theorem Chats.send (h : s.Chats t) {text : List Char} (htext : Idle text) :
    s.Chats (t.send text) := by
  refine h.trans fun hready => ?_
  rcases send_ready hready text with ⟨hready', hsent⟩
  rcases htext with ⟨hlast, hcr, hnone⟩
  refine ⟨[text.dropLast], ⟨hready', ?_, ?_⟩, ?_⟩
  · rw [hsent, List.flatten_append, List.flatten_singleton, List.flatMap_singleton,
      List.dropLast_append_getLast? _ hlast]
  · exact fun line hline => by rwa [List.mem_singleton.mp hline]
  · exact fun line hline => by rwa [List.mem_singleton.mp hline]

theorem Chats.awaitOK (n : Nat) (h : s.Chats t) : s.Chats (Radio.awaitOK n t).1 := by
  induction n generalizing t with
  | zero => exact h
  | succ n ih =>
      rw [Radio.awaitOK]
      by_cases hok : t.read.1.starts textOK = true
      · simp only [hok, if_true]
        exact h.read
      · simp only [hok, Bool.false_eq_true, if_false]
        exact ih h.read

theorem awaitOK_sent (n : Nat) (s : Radio) : (Radio.awaitOK n s).1.sent = s.sent := by
  induction n generalizing s with
  | zero => rfl
  | succ n ih =>
      rw [Radio.awaitOK]
      by_cases hok : s.read.1.starts textOK = true
      · simp only [hok, if_true]
        rfl
      · simp only [hok, Bool.false_eq_true, if_false]
        exact ih s.read.1

/-- Nothing is written while an `OK` is waited for. -/
theorem checkOK_sent (s : Radio) : s.checkOK.1.sent = s.sent := by
  unfold Radio.checkOK
  split_ifs
  · rfl
  · exact awaitOK_sent 4 s

theorem Chats.checkOK (h : s.Chats t) : s.Chats t.checkOK.1 := by
  unfold Radio.checkOK
  split_ifs
  · exact h
  · exact h.awaitOK 4

/-- Leaving data mode takes a line. -/
theorem Chats.cmdMode (h : s.Chats t) : s.Chats t.cmdMode.1 := by
  have hleft : s.Chats (t.send ['+', '+', '+', '\r']).checkOK.1 := (h.send (by decide)).checkOK
  unfold Radio.cmdMode
  simp only
  split_ifs
  · exact h
  · exact hleft.congr rfl rfl rfl
  · exact hleft
  · exact h

theorem Chats.dataMode (h : s.Chats t) : s.Chats t.dataMode.1 := by
  have hleft : s.Chats (t.send ['A', 'T', 'M', 'D', '\r']).checkOK.1 :=
    (h.send (by decide)).checkOK
  unfold Radio.dataMode
  simp only
  split_ifs
  · exact h
  · exact hleft.congr rfl rfl rfl
  · exact hleft
  · exact h
  · exact h

theorem Chats.sendCMD (h : s.Chats t) {text : List Char} (htext : Idle text) :
    s.Chats (t.sendCMD text) := by
  unfold Radio.sendCMD
  split_ifs
  · exact h
  · exact h.cmdMode.send htext

theorem Chats.command (h : s.Chats t) {text : List Char} (htext : Idle text) :
    s.Chats (t.command text).1 :=
  (h.sendCMD htext).checkOK

theorem Chats.disconnect (h : s.Chats t) : s.Chats t.disconnect.1 := by
  unfold Radio.disconnect
  split_ifs
  · exact h
  · exact h.command (by decide)

theorem Chats.unlinked (h : s.Chats t) {text : List Char} (htext : Idle text)
    (leave : Radio → Radio) (hleave : ∀ u, s.Chats u → s.Chats (leave u)) :
    s.Chats (t.unlinked text leave).1 := by
  unfold Radio.unlinked
  split_ifs
  · exact h
  · exact h
  · exact (hleave _ (h.sendCMD htext)).checkOK

theorem Chats.cancel (h : s.Chats t) : s.Chats t.cancel.1 :=
  h.unlinked (by decide) _ fun _ hu => hu.congr rfl rfl rfl

theorem Chats.cancelScan (h : s.Chats t) : s.Chats t.cancelScan.1 :=
  h.unlinked (by decide) _ fun _ hu => hu.congr rfl rfl rfl

theorem Chats.advertise (h : s.Chats t) : s.Chats t.advertise.1 :=
  h.unlinked (by decide) _ fun _ hu => hu

theorem Chats.scan (h : s.Chats t) : s.Chats t.scan.1 := by
  unfold Radio.scan
  split_ifs
  · exact h
  · exact h
  · exact (h.congr (u := { t with state := .scan, newDevices := 0 }) rfl rfl rfl).command
      (by decide)

theorem Chats.version (h : s.Chats t) : s.Chats t.version.1 := by
  have hread : s.Chats (t.command ['A', 'T', 'V', '?', '\r']).1.read.1 :=
    (h.command (by decide)).read
  unfold Radio.version
  simp only
  split_ifs
  · exact h
  · exact hread.congr rfl rfl rfl
  · exact hread

theorem Chats.sleep (h : s.Chats t) : s.Chats t.sleep.1 := by
  have hversion : s.Chats ({ t.cancel.1 with state := .sleep } : Radio).version.1 :=
    (h.cancel.congr (u := { t.cancel.1 with state := .sleep }) rfl rfl rfl).version
  unfold Radio.sleep
  simp only
  split_ifs
  · exact h
  · exact h
  · exact hversion.command (by decide)
  · exact hversion

end Sending

section Lines

variable {s : Radio} {r : Radio × Event}

/-! ### What the driver makes of a line -/

theorem discovery_chats (h : s.Chats r.1) : s.Chats (discovery r).1 := by
  unfold discovery
  split_ifs
  · exact h.congr rfl rfl rfl
  · exact h

theorem connectLine_chats (h : s.Chats r.1) : s.Chats (connectLine r).1 := by
  unfold connectLine
  simp only
  split_ifs
  · exact h.cancelScan.congr rfl rfl rfl
  · exact h.congr rfl rfl rfl
  · exact h

theorem brspLine_chats (h : s.Chats r.1) : s.Chats (brspLine r).1 := by
  unfold brspLine
  split_ifs
  · exact h.congr rfl rfl rfl
  · refine Chats.sendCMD ?_ (by decide)
    exact h.congr rfl rfl rfl
  · exact h

theorem gattDc_chats (h : s.Chats r.1) : s.Chats (gattDc r).1 := by
  unfold gattDc
  split_ifs
  · exact h.congr rfl rfl rfl
  · exact h.congr rfl rfl rfl
  · exact h
  · exact h

theorem gattDone_chats (h : s.Chats r.1) : s.Chats (gattDone r).1 := by
  unfold gattDone
  by_cases hstarts : r.1.starts textGattDone = true
  · rw [if_pos hstarts]
    cases hstate : r.1.state with
    | checkingNmx =>
        refine Chats.sendCMD ?_ (by decide)
        exact h.congr rfl rfl rfl
    | checkingGm =>
        refine Chats.disconnect ?_
        exact h.congr rfl rfl rfl
    | authorizingGm =>
        refine Chats.sendCMD ?_ (by decide)
        exact h.congr rfl rfl rfl
    | sleep | idle | scan | connected | connectedNmx | connectedGm => exact h
  · rw [if_neg hstarts]
    exact h

theorem disconnectLine_chats (h : s.Chats r.1) : s.Chats (disconnectLine r).1 := by
  unfold disconnectLine
  split_ifs
  · exact h.congr rfl rfl rfl
  · exact h

theorem doneLine_chats (h : s.Chats r.1) : s.Chats (doneLine r).1 := by
  unfold doneLine
  split_ifs
  · exact h.congr rfl rfl rfl
  · exact h

theorem awaited_chats (h : s.Chats r.1) : s.Chats (awaited r).1 := by
  unfold awaited
  split_ifs
  · exact h.congr rfl rfl rfl
  · exact h

theorem packet_chats {t : Radio} (h : s.Chats t) : s.Chats t.packet.1 := by
  unfold packet
  split_ifs
  · exact h.congr rfl rfl rfl
  · exact h
  · exact h

theorem handle_chats {t : Radio} (h : s.Chats t) (len : Nat) : s.Chats (t.handle len).1 := by
  unfold handle
  split_ifs
  · exact h
  · exact awaited_chats (doneLine_chats (disconnectLine_chats (gattDone_chats (gattDc_chats
      (brspLine_chats (connectLine_chats (discovery_chats h)))))))
  · exact packet_chats h

theorem task_chats {t : Radio} (h : s.Chats t) : s.Chats t.task.1 := by
  unfold task
  split_ifs
  · exact h.congr rfl rfl rfl
  · exact h
  · exact h.congr rfl rfl rfl
  · exact (handle_chats h.read t.read.2).congr rfl rfl rfl

theorem awaitLine_chats (n : Nat) {t : Radio} (h : s.Chats t) (event : Event) :
    s.Chats (awaitLine n t event).1 := by
  induction n generalizing t event with
  | zero => exact h.congr rfl rfl rfl
  | succ n ih =>
      rw [awaitLine]
      by_cases hfound : t.task.1.waitEventStatus = 2
      · rw [if_pos hfound]
        exact (task_chats h).congr rfl rfl rfl
      · rw [if_neg hfound]
        exact ih (task_chats h) _

theorem waitEvent_chats {t : Radio} (h : s.Chats t) (text : List UInt8) :
    s.Chats (t.waitEvent text).1 := by
  unfold waitEvent
  split_ifs
  · exact h
  · refine awaitLine_chats _ ?_ _
    exact h.congr rfl rfl rfl

end Lines

section Pieces

variable {s : Radio}

/-! ### A line in pieces -/

/-- Pieces that are given in command mode are written one behind the other. -/
theorem pieces_written (texts : List (List Char)) (hready : s.Ready) (hcmd : s.bt.mode = .cmd) :
    (texts.foldl sendCMD s).Ready ∧ (texts.foldl sendCMD s).bt.mode = .cmd ∧
      (texts.foldl sendCMD s).sent = s.sent ++ texts := by
  induction texts generalizing s with
  | nil => exact ⟨hready, hcmd, (List.append_nil _).symm⟩
  | cons text texts ih =>
      rcases send_ready hready text with ⟨hready', hsent⟩
      rw [List.foldl_cons, sendCMD_cmd s text hcmd]
      rcases ih hready' (by rw [send_bt]; exact hcmd) with ⟨hall, hmode, htexts⟩
      exact ⟨hall, hmode, by rw [htexts, hsent, List.append_assoc, List.singleton_append]⟩

/-- Pieces that make up a line, and the reading behind them, write that line. -/
theorem pieces_writes {texts : List (List Char)} {line : List Char} (hready : s.Ready)
    (hcmd : s.bt.mode = .cmd) (hline : texts.flatten = line ++ ['\r']) (hcr : '\r' ∉ line) :
    s.Writes (texts.foldl sendCMD s).checkOK.1 [line] := by
  rcases pieces_written texts hready hcmd with ⟨hall, -, hsent⟩
  rcases (Chats.refl (texts.foldl sendCMD s)).checkOK hall with ⟨lines, hwrites, -⟩
  have hkept : (texts.foldl sendCMD s).checkOK.1.sent = (texts.foldl sendCMD s).sent :=
    checkOK_sent _
  refine ⟨hwrites.ready, ?_, fun l hl => by rwa [List.mem_singleton.mp hl]⟩
  rw [hkept, hsent, List.flatten_append, hline, List.flatMap_singleton]

/-- A line that begins with another command is no order. -/
theorem order_none {line : List Char} (h : line.take 4 ≠ ['A', 'T', 'G', 'W']) :
    order line = none := by
  have hhead : ∀ head : List Char, head.take 4 = ['A', 'T', 'G', 'W'] → 4 ≤ head.length →
      line.take head.length ≠ head := by
    intro head hfour hlen heq
    have htake := congrArg (List.take 4) heq
    rw [List.take_take, Nat.min_eq_left hlen, hfour] at htake
    exact h htake
  unfold order nmxOrder genieOrder
  rw [bytesBehind_none (hhead nmxHead rfl (by decide)),
    bytesBehind_none (hhead genieHead rfl (by decide))]
  rfl

/-- An address is written as one line, which is no order, while nothing is connected. -/
theorem Chats.connect {s t : Radio} (h : s.Chats t) (hcmd : t.bt.mode = .cmd) {addr : List Char}
    (haddr : '\r' ∉ addr) : s.Chats (t.connect addr).1 := by
  unfold Radio.connect
  split_ifs
  · exact h
  · refine h.cancel.trans fun hready => ?_
    have hline : [['A', 'T', 'D', 'M', 'L', 'E', ','], addr, ['\r']].flatten =
        (['A', 'T', 'D', 'M', 'L', 'E', ','] ++ addr) ++ ['\r'] := by
      simp only [List.flatten_cons, List.flatten_nil, List.append_nil, List.append_assoc]
    have hcr : '\r' ∉ ['A', 'T', 'D', 'M', 'L', 'E', ','] ++ addr :=
      fun hmem => (List.mem_append.mp hmem).elim (by decide) haddr
    refine ⟨_, pieces_writes hready (cancel_cmd hcmd) hline hcr, fun line hl => ?_⟩
    rw [List.mem_singleton.mp hl]
    exact order_none (by
      rw [List.take_append_of_le_length (by decide)]
      decide)

end Pieces

end Radio

/-! ### Orders -/

namespace Rig

variable {p : Which → Position} {r : Rig}

/-- What is asked of a call. A Genie Mini is only asked to move the first motor. Nothing but
    a move is given that moves a motor, and no text but the driver's own. Something is
    connected to only while nothing is connected. -/
def Call.Fits (r : Rig) : Call → Prop
  | .moveSteps _ w _ _ => r.radio.state = .connectedGm → w = .motor1
  | .moveToPosition _ w _ => r.radio.state = .connectedGm → w = .motor1
  | .command _ code data => code ≠ 0xF ∧ data.length < 256
  | .radio (.sendCMD _) => False
  | .radio (.connect addr) => r.radio.state.linked = false ∧ '\r' ∉ addr
  | _ => True

instance (r : Rig) : (c : Call) → Decidable (c.Fits r)
  | .moveSteps _ _ _ _ => inferInstanceAs (Decidable (_ → _))
  | .moveToPosition _ _ _ => inferInstanceAs (Decidable (_ → _))
  | .command _ _ _ => inferInstanceAs (Decidable (_ ∧ _))
  | .running _ => .isTrue trivial
  | .stop _ => .isTrue trivial
  | .checkConnected _ => .isTrue trivial
  | .remote _ => .isTrue trivial
  | .radio request => match request with
    | .sendCMD _ => .isFalse id
    | .connect _ => inferInstanceAs (Decidable (_ ∧ _))
    | .scan | .cancel | .cancelScan | .disconnect | .advertise | .sleep | .version | .dataMode
    | .cmdMode | .task | .waitEvent _ => .isTrue trivial

/-- Besides, the module takes what it is given. -/
def Fits (r : Rig) (l : Label) : Prop :=
  (∀ wake ∈ l.wakes, wake ≠ .never) ∧ l.call.Fits r

instance (r : Rig) (l : Label) : Decidable (r.Fits l) := inferInstanceAs (Decidable (_ ∧ _))

/-- The steps of some orders for a motor. -/
def told (w : Which) (given : List Order) : Int := (given.map (Order.steps w)).sum

/-- The invariant. What has been written are lines, the orders among them are those that were
    given, and every position is the sum of them and of what was missed. -/
structure Sound (p : Which → Position) (r : Rig) : Prop where
  ready : r.radio.Ready
  tied : r.radio.Tied
  lines : ∃ lines : List (List Char), r.radio.sent.flatten = lines.flatMap (· ++ ['\r']) ∧
    (∀ line ∈ lines, '\r' ∉ line) ∧ lines.filterMap order = r.given
  position : ∀ w, (r.motors w).currentPos = .wrap ((p w).val + told w r.given + r.missed w)

theorem told_concat (w : Which) (given : List Order) (o : Order) :
    told w (given ++ [o]) = told w given + o.steps w := by
  unfold told
  rw [List.map_append, List.sum_append, List.map_singleton, List.sum_singleton]

/-- Only the lines, the orders and the positions matter. -/
theorem Sound.congr {r' : Rig} (h : r.Sound p) (hradio : r'.radio = r.radio)
    (hmotors : r'.motors = r.motors) (hgiven : r'.given = r.given)
    (hmissed : r'.missed = r.missed) : r'.Sound p where
  ready := hradio ▸ h.ready
  tied := hradio ▸ h.tied
  lines := by
    rw [hradio, hgiven]
    exact h.lines
  position := by
    rw [hmotors, hgiven, hmissed]
    exact h.position

/-- The driver writes lines that are no orders. -/
theorem Sound.chats (h : r.Sound p) {s : Radio} (hchats : r.radio.Chats s) (htied : s.Tied) :
    ({ r with radio := s } : Rig).Sound p := by
  rcases hchats h.ready with ⟨new, hwrites, hnone⟩
  rcases h.lines with ⟨lines, htext, hcr, hgiven⟩
  refine ⟨hwrites.ready, htied, ⟨lines ++ new, ?_, ?_, ?_⟩, h.position⟩
  · show s.sent.flatten = _
    rw [hwrites.text, htext, List.flatMap_append]
  · exact fun line hline => (List.mem_append.mp hline).elim (hcr line) (hwrites.whole line)
  · rw [List.filterMap_append, hgiven, List.filterMap_eq_nil_iff.mpr hnone, List.append_nil]

/-- An order is given, and a position takes account of it. -/
theorem Sound.given (h : r.Sound p) {r' : Rig} {o : Order} (hfits : o.Fits)
    (hwrites : r.radio.Writes r'.radio [o.line]) (htied : r'.radio.Tied)
    (hgiven : r'.given = r.given ++ [o]) (hmissed : r'.missed = r.missed)
    (hposition : ∀ w, (r'.motors w).currentPos =
      .wrap ((r.motors w).currentPos.val + o.steps w)) : r'.Sound p := by
  rcases h.lines with ⟨lines, htext, hcr, horders⟩
  refine ⟨hwrites.ready, htied, ⟨lines ++ [o.line], ?_, ?_, ?_⟩, fun w => ?_⟩
  · rw [hwrites.text, htext, List.flatMap_append]
  · exact fun line hline => (List.mem_append.mp hline).elim (hcr line) (hwrites.whole line)
  · rw [List.filterMap_append, horders, hgiven, List.filterMap_cons, order_line hfits,
      List.filterMap_nil]
  · rw [hposition, h.position, wrap_add, hgiven, told_concat, hmissed]
    exact congrArg Position.wrap (by omega)

/-- The driver's part of a query. -/
theorem answer_chats (s : Radio) : s.Chats (answer s).1 := by
  have hasked : s.Chats (s.sendCMD ("ATGR,0,24\r".toList)).checkOK.1 :=
    ((Radio.Chats.refl s).sendCMD (by decide)).checkOK
  unfold answer
  simp only
  split_ifs
  · exact Radio.waitEvent_chats hasked gattVal
  · exact Radio.waitEvent_chats hasked gattVal
  · exact hasked

theorem answer_tied {s : Radio} (h : s.Tied) : (answer s).1.Tied := by
  have hasked : (s.sendCMD ("ATGR,0,24\r".toList)).checkOK.1.Tied :=
    Radio.checkOK_tied (Radio.sendCMD_tied h _)
  unfold answer
  simp only
  split_ifs
  · exact Radio.waitEvent_tied hasked gattVal
  · exact Radio.waitEvent_tied hasked gattVal
  · exact hasked

theorem foldl_sendCMD_tied {s : Radio} (h : s.Tied) (texts : List (List Char)) :
    (texts.foldl Radio.sendCMD s).Tied := by
  induction texts generalizing s with
  | nil => exact h
  | cons text texts ih => exact ih (Radio.sendCMD_tied h text)

/-- Without a link no order goes out. -/
theorem sendCommandGeneral_unlinked (h : r.linked = false) (node motor command : UInt8)
    (data : List UInt8) : r.sendCommandGeneral node motor command data = (r, false) := by
  unfold linked at h
  unfold sendCommandGeneral
  refine if_pos ?_
  cases hnmx : r.nmx with
  | false => rfl
  | true =>
      rw [hnmx, Bool.true_and] at h
      rw [Bool.not_true, Bool.false_or, decide_eq_true_eq]
      exact of_decide_eq_false h

/-- With one its pieces are given one after the other. -/
theorem sendCommandGeneral_pieces (h : r.linked = true) (node motor command : UInt8)
    (data : List UInt8) : ∃ ok, r.sendCommandGeneral node motor command data =
      ({ r with
        radio := (([nmxHead] ++ (node :: motor :: command :: .ofNat data.length :: data).map
          uint8tohex ++ [['\r']]).foldl Radio.sendCMD r.radio).checkOK.1
        given := r.given ++ [.nmx node motor command data] }, ok) := by
  unfold linked at h
  rw [Bool.and_eq_true, decide_eq_true_eq] at h
  have hif : ¬ (!r.nmx || decide (r.radio.state ≠ .connectedNmx)) = true := by
    rw [h.1, h.2]
    decide
  have hbytes : ∀ (bytes : List UInt8) (s : Radio),
      bytes.foldl Radio.sendHex s = (bytes.map uint8tohex).foldl Radio.sendCMD s := by
    intro bytes s
    rw [List.foldl_map]
    rfl
  have hpieces : ((data.foldl Radio.sendHex (((((r.radio.sendCMD nmxHead).sendHex node).sendHex
      motor).sendHex command).sendHex (.ofNat data.length))).sendCMD ['\r']) =
      ([nmxHead] ++ (node :: motor :: command :: .ofNat data.length :: data).map uint8tohex ++
        [['\r']]).foldl Radio.sendCMD r.radio := by
    rw [List.foldl_append, List.foldl_append, hbytes]
    rfl
  refine ⟨(r.sendCommandGeneral node motor command data).2, Prod.ext ?_ rfl⟩
  unfold sendCommandGeneral
  rw [if_neg hif]
  simp only [hpieces]

/-- There is a link in command mode only. -/
theorem linked_cmd (htied : r.radio.Tied) (h : r.linked = true) : r.radio.bt.mode = .cmd := by
  unfold linked at h
  rw [Bool.and_eq_true, decide_eq_true_eq] at h
  refine htied.cmd ?_
  rw [h.2]
  simp only [ne_eq, reduceCtorEq, not_false_eq_true]

/-- So it is written as one line. -/
theorem sendCommandGeneral_writes (hready : r.radio.Ready) (htied : r.radio.Tied)
    (h : r.linked = true) (node motor command : UInt8) (data : List UInt8) :
    ∃ s ok, r.sendCommandGeneral node motor command data =
        ({ r with radio := s, given := r.given ++ [.nmx node motor command data] }, ok) ∧
      r.radio.Writes s [(Order.nmx node motor command data).line] ∧ s.Tied := by
  rcases sendCommandGeneral_pieces h node motor command data with ⟨ok, heq⟩
  have hline : ([nmxHead] ++ (node :: motor :: command :: .ofNat data.length :: data).map
      uint8tohex ++ [['\r']]).flatten = (Order.nmx node motor command data).line ++ ['\r'] := by
    rw [List.flatten_append, List.flatten_append, List.flatten_singleton, List.flatten_singleton]
    rfl
  exact ⟨_, ok, heq, Radio.pieces_writes hready (linked_cmd htied h) hline (cr_notMem_line _),
    Radio.checkOK_tied (foldl_sendCMD_tied htied _)⟩

/-- An order to a Genie Mini is given in pieces as well. -/
theorem genieMove_pieces (r : Rig) (dir : UInt8) (steps : UInt32) :
    (r.genieMove dir steps).1.radio = (([genieHead] ++
      (littleEndian (gmSteps dir steps) ++ [dir]).map uint8tohex ++ [['\r']]).foldl Radio.sendCMD
        r.radio).checkOK.1 := by
  rw [List.foldl_append, List.foldl_append, List.foldl_map]
  rfl

theorem genie_cmd (htied : r.radio.Tied) (h : r.radio.state = .connectedGm) :
    r.radio.bt.mode = .cmd := by
  refine htied.cmd ?_
  rw [h]
  simp only [ne_eq, reduceCtorEq, not_false_eq_true]

theorem genieMove_writes (hready : r.radio.Ready) (htied : r.radio.Tied)
    (h : r.radio.state = .connectedGm) (dir : UInt8) (steps : UInt32) :
    r.radio.Writes (r.genieMove dir steps).1.radio [(Order.genie (gmSteps dir steps) dir).line] ∧
      (r.genieMove dir steps).1.radio.Tied := by
  have hline : ([genieHead] ++ (littleEndian (gmSteps dir steps) ++ [dir]).map uint8tohex ++
      [['\r']]).flatten = (Order.genie (gmSteps dir steps) dir).line ++ ['\r'] := by
    rw [List.flatten_append, List.flatten_append, List.flatten_singleton, List.flatten_singleton]
    rfl
  rw [genieMove_pieces]
  exact ⟨Radio.pieces_writes hready (genie_cmd htied h) hline (cr_notMem_line _),
    Radio.checkOK_tied (foldl_sendCMD_tied htied _)⟩

/-! ### Steps -/

/-- An order is for one motor, and only a move makes it go. -/
theorem steps_other {node motor command : UInt8} {data : List UInt8} {w : Which}
    (h : motor = w.motorAddress → command ≠ 0xF) :
    (Order.nmx node motor command data).steps w = 0 := by
  unfold Order.steps
  split
  · next heq =>
      cases heq
      exact if_neg fun hif => h hif.2.1 hif.2.2
  · rfl
  · next heq => cases heq

theorem motorAddress_inj {w w' : Which} (h : w.motorAddress = w'.motorAddress) : w = w' := by
  revert h
  cases w <;> cases w' <;> decide

/-- A move makes its motor go its steps. -/
theorem steps_move (w w' : Which) (dir : UInt8) (steps : UInt32) :
    (Order.nmx nodeAddress w.motorAddress 0xF (dir :: (littleEndian steps).reverse)).steps w' =
      if w' = w then signed dir steps else 0 := by
  by_cases hw : w' = w
  · rw [if_pos hw, hw]
    have hword : UInt32.ofNat (bigEndian (littleEndian steps).reverse) = steps := by
      rw [bigEndian_littleEndian, UInt32.ofNat_toNat]
    exact (if_pos ⟨rfl, rfl, rfl⟩).trans (congrArg (signed dir) hword)
  · rw [if_neg hw]
    exact steps_other fun haddr => absurd (motorAddress_inj haddr).symm hw

/-- To a Genie Mini the sign is the direction, in a word. -/
theorem steps_genie (dir : UInt8) (steps : UInt32) (a : Int) :
    Position.wrap (a + (Order.genie (gmSteps dir steps) dir).steps .motor1) =
      .wrap (a + signed dir steps) := by
  have hlt := steps.toNat_lt
  refine wrap_congr ?_
  have hone : (Order.genie (gmSteps dir steps) dir).steps .motor1 =
      (Position.wrap (gmSteps dir steps).toNat).val := by
    rw [Order.steps, if_pos rfl]
  rw [hone]
  unfold gmSteps signed
  by_cases hdir : dir = 0
  · rw [if_neg (not_not_intro hdir), if_pos hdir]
    simp only [Position.wrap]
    omega
  · rw [if_pos hdir, if_neg hdir, UInt32.toNat_sub]
    simp only [Position.wrap, UInt32.reduceToNat]
    omega

/-! ### Calls -/

/-- A command that moves nothing. -/
theorem sendCommandGeneral_sound (h : r.Sound p) (node motor : UInt8) {command : UInt8}
    (hcommand : command ≠ 0xF) {data : List UInt8} (hdata : data.length < 256) :
    (r.sendCommandGeneral node motor command data).1.Sound p := by
  cases hlinked : r.linked with
  | false =>
      rw [sendCommandGeneral_unlinked hlinked]
      exact h
  | true =>
      rcases sendCommandGeneral_writes h.ready h.tied hlinked node motor command data with
        ⟨s, ok, heq, hwrites, htied⟩
      have hfits : (Order.nmx node motor command data).Fits := hdata
      rw [heq]
      refine h.given hfits hwrites htied rfl rfl fun w => ?_
      rw [steps_other fun _ => hcommand, Int.add_zero]
      exact (position_ext (wrap_val.mpr ⟨(r.motors w).currentPos.low,
        (r.motors w).currentPos.high⟩)).symm

theorem sendQueryGeneral_sound (h : r.Sound p) (node motor : UInt8) {command : UInt8}
    (hcommand : command ≠ 0xF) : (r.sendQueryGeneral node motor command).1.Sound p := by
  have hsent := sendCommandGeneral_sound h node motor hcommand
    (show ([] : List UInt8).length < 256 by decide)
  unfold sendQueryGeneral
  simp only
  split_ifs
  · exact hsent.chats (answer_chats _) (answer_tied hsent.tied)
  · exact hsent

theorem running_sound (h : r.Sound p) (w : Which) : (r.running w).1.Sound p := by
  unfold running
  split_ifs
  · exact h
  · exact sendQueryGeneral_sound h _ _ (by decide)
  · exact h

/-- However often the controller is asked. -/
theorem rest_sound {r' : Rig} (w : Which) (n : Nat) (h : r.Sound p)
    (hrest : rest w n r = some r') : r'.Sound p := by
  induction n generalizing r with
  | zero => cases hrest
  | succ n ih =>
      rw [rest] at hrest
      by_cases hrunning : (r.running w).2 = true
      · rw [if_pos hrunning] at hrest
        exact ih (running_sound h w) hrest
      · rw [if_neg hrunning] at hrest
        rw [← Option.some.inj hrest]
        exact running_sound h w

theorem advance_position (r : Rig) (w w' : Which) (dir : UInt8) (steps : UInt32) :
    ((r.advance w dir steps).motors w').currentPos =
      .wrap ((r.motors w').currentPos.val + if w' = w then signed dir steps else 0) := by
  unfold advance
  by_cases hw : w' = w
  · rw [if_pos hw, hw]
    simp only [Function.update_self]
    rfl
  · rw [if_neg hw, Int.add_zero]
    simp only [Function.update_of_ne hw]
    exact (position_ext (wrap_val.mpr ⟨(r.motors w').currentPos.low,
      (r.motors w').currentPos.high⟩)).symm

/-- The steps that are added are those of an order, or they are missed. -/
theorem move_sound {r' : Rig} {ok : Bool} (h : r.Sound p) (polls : Nat) (w : Which) (dir : UInt8)
    (steps : UInt32) (hgenie : r.radio.state = .connectedGm → w = .motor1)
    (hmove : r.move polls w dir steps true = some (r', ok)) : r'.Sound p := by
  unfold move at hmove
  by_cases hgm : r.radio.state = .connectedGm
  · -- A Genie Mini is not asked whether it has come to rest.
    rw [if_pos hgm] at hmove
    rcases genieMove_writes h.ready h.tied hgm dir steps with ⟨hwrites, htied⟩
    rw [← (Prod.mk.inj (Option.some.inj hmove)).1, if_pos rfl]
    refine h.given (o := .genie (gmSteps dir steps) dir) trivial hwrites htied rfl rfl fun w' => ?_
    rw [advance_position, hgenie hgm]
    show Position.wrap ((r.motors w').currentPos.val + _) = _
    by_cases hw : w' = .motor1
    · rw [if_pos hw, hw, steps_genie]
    · have hother : (Order.genie (gmSteps dir steps) dir).steps w' = 0 := by
        rw [Order.steps, if_neg hw]
      rw [if_neg hw, hother]
  · rw [if_neg hgm] at hmove
    rcases Option.map_eq_some_iff.mp hmove with ⟨q, hrest, hsent⟩
    have hq := rest_sound w polls h hrest
    rw [if_pos rfl] at hsent
    cases hlinked : q.linked with
    | true =>
        have hmiss : q.miss w dir steps = q := if_pos hlinked
        rw [hmiss] at hsent
        rcases sendCommandGeneral_writes (r := q.advance w dir steps) hq.ready hq.tied hlinked
          nodeAddress w.motorAddress 0xF (dir :: (littleEndian steps).reverse) with
          ⟨s, ok', heq, hwrites, htied⟩
        rw [← (Prod.mk.inj (heq.symm.trans hsent)).1]
        refine hq.given (o := .nmx nodeAddress w.motorAddress 0xF
          (dir :: (littleEndian steps).reverse)) ?_ hwrites htied rfl rfl fun w' => ?_
        · show 5 < 256
          decide
        · rw [steps_move]
          exact advance_position q w w' dir steps
    | false =>
        -- The link is gone. The steps are added all the same.
        have hmiss : q.miss w dir steps =
            { q with missed := Function.update q.missed w (q.missed w + signed dir steps) } :=
          if_neg (by rw [hlinked]; exact Bool.false_ne_true)
        have hunlinked : ((q.miss w dir steps).advance w dir steps).linked = false := by
          rw [hmiss]
          exact hlinked
        unfold sendCommand at hsent
        rw [sendCommandGeneral_unlinked hunlinked] at hsent
        rw [← (Prod.mk.inj hsent).1, hmiss]
        refine ⟨hq.ready, hq.tied, hq.lines, fun w' => ?_⟩
        rw [advance_position, hq.position, wrap_add]
        refine congrArg Position.wrap ?_
        unfold advance
        by_cases hw : w' = w
        · rw [if_pos hw, hw]
          simp only [Function.update_self]
          omega
        · rw [if_neg hw]
          simp only [Function.update_of_ne hw]
          omega

/-- A stop is no move, to either controller. -/
theorem stop_sound (h : r.Sound p) (w : Which) : (r.stop w).1.Sound p := by
  unfold stop
  split_ifs
  · have hchats : r.radio.Chats r.genieStop.1.radio :=
      (Radio.Chats.refl _).command (by decide)
    have htied : r.genieStop.1.radio.Tied := Radio.command_tied h.tied _
    exact (h.chats hchats htied).congr rfl rfl rfl rfl
  · exact sendCommandGeneral_sound h _ _ (by decide) (by decide)

theorem askConnected_sound (h : r.Sound p) : r.askConnected.Sound p := by
  unfold askConnected
  split_ifs
  · exact h.congr rfl rfl rfl rfl
  · exact (sendQueryGeneral_sound h 3 0 (by decide)).congr rfl rfl rfl rfl

theorem checkConnected_sound (h : r.Sound p) (w : Which) : (r.checkConnected w).Sound p := by
  have hasked := askConnected_sound h
  unfold checkConnected
  simp only
  split_ifs
  · exact h.congr rfl rfl rfl rfl
  · exact hasked.congr rfl rfl rfl rfl
  · exact h.congr rfl rfl rfl rfl

theorem moveToPosition_sound {r' : Rig} {ok : Bool} (h : r.Sound p) (polls : Nat) (w : Which)
    (pos : Position) (hgenie : r.radio.state = .connectedGm → w = .motor1)
    (hmove : r.moveToPosition polls w pos = some (r', ok)) : r'.Sound p := by
  unfold moveToPosition at hmove
  simp only at hmove
  split_ifs at hmove
  · exact move_sound h polls w _ _ hgenie hmove
  · exact move_sound h polls w _ _ hgenie hmove
  · rw [← (Prod.mk.inj (Option.some.inj hmove)).1]
    exact h

/-- A call of the driver writes no order. -/
theorem call_chats {s : Radio} (htied : s.Tied) {request : Request}
    (hsend : ∀ text, request ≠ .sendCMD text)
    (hconnect : ∀ addr, request = .connect addr → s.state.linked = false ∧ '\r' ∉ addr) :
    s.Chats (s.call request) := by
  have hs := Radio.Chats.refl s
  cases request with
  | scan => exact hs.scan
  | cancel => exact hs.cancel
  | cancelScan => exact hs.cancelScan
  | connect addr =>
      rcases hconnect addr rfl with ⟨hlinked, haddr⟩
      refine hs.connect (Radio.cmd_of_unlinked htied ?_) haddr
      rw [hlinked]
      exact Bool.false_ne_true
  | disconnect => exact hs.disconnect
  | advertise => exact hs.advertise
  | sleep => exact hs.sleep
  | version => exact hs.version
  | dataMode => exact hs.dataMode
  | cmdMode => exact hs.cmdMode
  | sendCMD text => exact absurd rfl (hsend text)
  | task =>
      have htask := Radio.task_chats hs
      unfold Radio.call Radio.tell
      simp only
      split_ifs
      · exact htask.congr rfl rfl rfl
      · exact htask
  | waitEvent text => exact Radio.waitEvent_chats hs text

/-- What the driver's calls keep of the mode. -/
theorem call_tied {s : Radio} (h : s.Tied) (request : Request) : (s.call request).Tied :=
  Radio.step_tied ⟨request, s.arrivals, s.wakes⟩ h rfl

/-- Every call keeps the invariant, whatever the module does during it. -/
theorem step_sound {r' : Rig} {l : Label} (h : r.Sound p) (hfits : r.Fits l)
    (hstep : r.step l = some r') : r'.Sound p := by
  have hmeets : (r.meets l).Sound p :=
    ⟨⟨h.ready.1, hfits.1⟩, fun hdata => h.tied hdata, h.lines, h.position⟩
  have hcall := hfits.2
  unfold step at hstep
  cases hl : l.call with
  | moveSteps polls w dir steps =>
      rw [hl] at hstep hcall
      rcases Option.map_eq_some_iff.mp hstep with ⟨⟨q, ok⟩, hmove, rfl⟩
      exact move_sound hmeets polls w dir steps hcall hmove
  | moveToPosition polls w pos =>
      rw [hl] at hstep hcall
      rcases Option.map_eq_some_iff.mp hstep with ⟨⟨q, ok⟩, hmove, rfl⟩
      exact moveToPosition_sound hmeets polls w pos hcall hmove
  | running w =>
      rw [hl] at hstep
      rw [← Option.some.inj hstep]
      exact running_sound hmeets w
  | stop w =>
      rw [hl] at hstep
      rw [← Option.some.inj hstep]
      exact stop_sound hmeets w
  | command w command data =>
      rw [hl] at hstep hcall
      rw [← Option.some.inj hstep]
      exact sendCommandGeneral_sound hmeets _ _ hcall.1 hcall.2
  | checkConnected w =>
      rw [hl] at hstep
      rw [← Option.some.inj hstep]
      exact checkConnected_sound hmeets w
  | remote nmx =>
      rw [hl] at hstep
      rw [← Option.some.inj hstep]
      exact hmeets.congr rfl rfl rfl rfl
  | radio request =>
      rw [hl] at hstep hcall
      rw [← Option.some.inj hstep]
      refine hmeets.chats (call_chats hmeets.tied ?_ ?_) (call_tied hmeets.tied request)
      · intro text heq
        rw [heq] at hcall
        exact hcall
      · intro addr heq
        rw [heq] at hcall
        exact hcall

/-! ### Runs -/

/-- Nothing has been written, and no order has been given. -/
structure Begun (r : Rig) : Prop where
  present : r.radio.bt.present = true
  waking : ∀ wake ∈ r.radio.wakes, wake ≠ .never
  tied : r.radio.Tied
  sent : r.radio.sent = []
  given : r.given = []
  missed : ∀ w, r.missed w = 0

theorem Begun.sound (h : r.Begun) : r.Sound fun w => (r.motors w).currentPos where
  ready := ⟨h.present, h.waking⟩
  tied := h.tied
  lines := ⟨[], by rw [h.sent]; rfl, fun _ hline => absurd hline List.not_mem_nil,
    by rw [h.given]; rfl⟩
  position := by
    intro w
    have hnone : ((r.motors w).currentPos.val + told w r.given + r.missed w) =
        (r.motors w).currentPos.val := by
      rw [h.given, h.missed]
      show _ + 0 + 0 = _
      omega
    rw [hnone]
    exact (position_ext (wrap_val.mpr ⟨(r.motors w).currentPos.low,
      (r.motors w).currentPos.high⟩)).symm

theorem run_sound {start : Rig} (hstart : start.Begun) (h : Run step Fits start r) :
    r.Sound fun w => (start.motors w).currentPos :=
  h.invariant _ (fun _ _ _ hs hfits hstep => step_sound hs hfits hstep) hstart.sound

/-- A controller is connected, and the motors are at zero. -/
def ready : Rig where
  radio := { Radio.fresh with state := .connectedNmx }
  nmx := true
  motors := fun _ => ⟨.wrap 0⟩
  connected := fun _ => false
  connectedResponse := 0
  genieMoving := false
  given := []
  missed := fun _ => 0

theorem ready_begun : ready.Begun where
  present := rfl
  waking := fun _ hwake => absurd hwake List.not_mem_nil
  tied := Radio.tied_cmd rfl
  sent := rfl
  given := rfl
  missed := fun _ => rfl

/-- Two motors are moved, with a setting in between. The last move comes when the link is
    gone. -/
def moves : List Label :=
  [⟨.moveSteps 1 .motor1 0 1000, [], []⟩, ⟨.command .motor1 0x5 [0, 40], [], []⟩,
    ⟨.moveToPosition 1 .motor2 (.wrap (-70000)), [], []⟩, ⟨.moveSteps 1 .motor1 1 300, [], []⟩,
    ⟨.remote false, [], []⟩, ⟨.moveSteps 1 .motor1 0 5, [], []⟩]

end Rig

end Bluetooth

end TimelapsePlus
