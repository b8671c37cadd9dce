import Mathlib.Data.List.ProdSigma
import Mathlib.Data.Nat.Bitwise
import TimelapsePlus.Lib.Pointwise

/-!
# The Screen of the Display

The screen is kept as 84 columns of six bytes, with eight points to a byte. Setting or
clearing a point outside of it does nothing. Whether a point is set is also read outside of
it, where the byte belongs to another point, or to none, but what is made of that is then
given to a function that does nothing there.

As a picture the screen has a value for each point. Each point has a bit of its own, and so
what is drawn in bytes is what is drawn in the picture.

The loops over a box count in bytes. One up to 255 would not end, and has no result here.

## Main definitions

* `Screen`: The bytes.
* `setPixel`, `clearPixel`, `getPixel`, `xorPixel`, `drawHighlight`, `eraseBox`, `cls`: The
  functions of the source.
* `Screen.picture`: What they show.
* `Draws`: A drawing in bytes and one in the picture.

## Theorems

* `bit_or`, `bit_andNot`: The bits of a byte.
* `draws_setPixel` and its like: What a point comes to.
* `draws_box`: What a box comes to.
-/

namespace TimelapsePlus

namespace Lcd

open TimelapsePlus.Pointwise

/-- The memory from `screen` on, by columns. -/
abbrev Screen : Type := Nat → UInt8

/-- The place of a point's byte. -/
def cell (x y : UInt8) : Nat := x.toNat * 6 + (y >>> 3).toNat

/-- `1 << (y % 8)`. -/
def mask (y : UInt8) : UInt8 := 1 <<< (y % 8)

/-- The point is on the screen. -/
def OnScreen (x y : UInt8) : Prop := x ≤ 83 ∧ y ≤ 47

instance (x y : UInt8) : Decidable (OnScreen x y) := inferInstanceAs (Decidable (_ ∧ _))

namespace Screen

/-- `LCD::setPixel`. -/
def setPixel (s : Screen) (x y : UInt8) : Screen :=
  if OnScreen x y then Function.update s (cell x y) (s (cell x y) ||| mask y) else s

/-- `LCD::clearPixel`. -/
def clearPixel (s : Screen) (x y : UInt8) : Screen :=
  if OnScreen x y then Function.update s (cell x y) (s (cell x y) &&& ~~~mask y) else s

/-- `LCD::getPixel`. -/
def getPixel (s : Screen) (x y : UInt8) : Bool := decide (s (cell x y) &&& mask y ≠ 0)

/-- `LCD::xorPixel`. -/
def xorPixel (s : Screen) (x y : UInt8) : Screen :=
  if s.getPixel x y then s.clearPixel x y else s.setPixel x y

/-- The values of `for(j = a; j <= b; j++)`. A byte is never more than 255. -/
def upTo (a b : UInt8) : Option (List UInt8) :=
  if b = 255 then none
  else some ((List.range' a.toNat (b.toNat + 1 - a.toNat)).map UInt8.ofNat)

/-- The loops over a box, column by column. The inner one is begun for the first column. -/
def box (draw : Screen → UInt8 → UInt8 → Screen) (s : Screen) (x1 y1 x2 y2 : UInt8) :
    Option Screen :=
  match upTo x1 x2 with
  | none => none
  | some [] => some s
  | some xs => (upTo y1 y2).map fun ys =>
      xs.foldl (fun s x => ys.foldl (fun s y => draw s x y) s) s

/-- `LCD::drawHighlight`. -/
def drawHighlight (s : Screen) (x1 y1 x2 y2 : UInt8) : Option Screen :=
  box xorPixel s x1 y1 x2 y2

/-- `LCD::eraseBox`. -/
def eraseBox (s : Screen) (x1 y1 x2 y2 : UInt8) : Option Screen :=
  box clearPixel s x1 y1 x2 y2

/-- `LCD::cls`. -/
def cls (s : Screen) : Screen := fun k => if k < 504 then 0 else s k

/-- What the screen shows. -/
def picture (s : Screen) (i : UInt8 × UInt8) : Bool :=
  decide (OnScreen i.1 i.2) && s.getPixel i.1 i.2

end Screen

/-- A picture. -/
abbrev Picture : Type := UInt8 × UInt8 → Bool

/-- A drawing in bytes draws this in the picture. -/
def Draws (draw : Screen → Screen) (f : Picture → Picture) : Prop :=
  ∀ s : Screen, (draw s).picture = f s.picture

theorem Draws.comp {draw draw' : Screen → Screen} {f f' : Picture → Picture} (h : Draws draw f)
    (h' : Draws draw' f') : Draws (fun s => draw' (draw s)) fun p => f' (f p) := by
  intro s
  rw [h', h]

theorem Draws.foldl {β : Type} {draw : β → Screen → Screen} {f : β → Picture → Picture}
    (h : ∀ b, Draws (draw b) (f b)) (bs : List β) :
    Draws (fun s => bs.foldl (fun s b => draw b s) s) fun p => bs.foldl (fun p b => f b p) p := by
  intro s
  induction bs generalizing s with
  | nil => rfl
  | cons b bs ih =>
      refine (ih (draw b s)).trans ?_
      simp only [h b s, List.foldl_cons]

section Bits

/-! ### Bits -/

variable {b : UInt8} {i j : Nat}

/-- A bit of a byte, as `getPixel` looks at it. -/
theorem mask_toNat (y : UInt8) : (mask y).toNat = 2 ^ (y.toNat % 8) := by
  have hmod : (y % 8).toNat = y.toNat % 8 := UInt8.toNat_mod y 8
  have hlt : y.toNat % 8 < 8 := Nat.mod_lt _ (by decide)
  have hpow : 2 ^ (y.toNat % 8) < 256 := lt_of_lt_of_le
    (Nat.pow_lt_pow_right (by decide) hlt) (le_refl 256)
  unfold mask
  rw [UInt8.toNat_shiftLeft, hmod, Nat.mod_mod, Nat.shiftLeft_eq]
  show 1 * 2 ^ (y.toNat % 8) % 2 ^ 8 = _
  rw [Nat.one_mul, Nat.mod_eq_of_lt hpow]

/-- A bit is set. -/
theorem and_mask (b y : UInt8) : (b &&& mask y ≠ 0) ↔ b.toNat.testBit (y.toNat % 8) = true := by
  have hzero : (0 : UInt8).toNat = 0 := rfl
  rw [ne_eq, ← UInt8.toNat_inj, UInt8.toNat_and, mask_toNat, hzero, Nat.and_two_pow]
  cases b.toNat.testBit (y.toNat % 8) with
  | false => simp only [Bool.toNat_false, Nat.zero_mul, not_true_eq_false, Bool.false_eq_true]
  | true =>
      simp only [Bool.toNat_true, Nat.one_mul, iff_true]
      exact Nat.pos_iff_ne_zero.mp (Nat.two_pow_pos _)

/-- Setting a bit sets that one. -/
theorem testBit_or_mask (b y : UInt8) (k : Nat) : (b ||| mask y).toNat.testBit k =
    (b.toNat.testBit k || decide (y.toNat % 8 = k)) := by
  rw [UInt8.toNat_or, mask_toNat, Nat.testBit_or, Nat.testBit_two_pow]

/-- Clearing a bit clears that one. -/
theorem testBit_and_not_mask (b y : UInt8) {k : Nat} (hk : k < 8) :
    (b &&& ~~~mask y).toNat.testBit k = (b.toNat.testBit k && !decide (y.toNat % 8 = k)) := by
  have hnot : (~~~mask y).toNat = 2 ^ 8 - ((mask y).toNat + 1) := by
    rw [UInt8.toNat_not]
    show 256 - 1 - (mask y).toNat = 256 - ((mask y).toNat + 1)
    omega
  rw [UInt8.toNat_and, hnot, Nat.testBit_and, Nat.testBit_two_pow_sub_succ (mask y).toNat_lt,
    mask_toNat, Nat.testBit_two_pow, decide_eq_true hk, Bool.true_and]

end Bits

section Points

/-! ### Points -/

variable {x y x' y' : UInt8}

theorem toNat_row (y : UInt8) : (y >>> 3).toNat = y.toNat / 8 := by
  rw [UInt8.toNat_shiftRight]
  exact Nat.shiftRight_eq_div_pow _ 3

theorem onScreen_iff : OnScreen x y ↔ x.toNat ≤ 83 ∧ y.toNat ≤ 47 :=
  and_congr UInt8.le_iff_toNat_le UInt8.le_iff_toNat_le

/-- A point on the screen is in it. -/
theorem cell_lt (h : OnScreen x y) : cell x y < 504 := by
  have hxy := onScreen_iff.mp h
  unfold cell
  rw [toNat_row]
  omega

/-- Points on the screen that share a byte and a bit are the same. -/
theorem cell_inj (h : OnScreen x y) (h' : OnScreen x' y') (hcell : cell x y = cell x' y')
    (hbit : y.toNat % 8 = y'.toNat % 8) : (x, y) = (x', y') := by
  have hxy := onScreen_iff.mp h
  have hxy' := onScreen_iff.mp h'
  unfold cell at hcell
  rw [toNat_row, toNat_row] at hcell
  have hx : x.toNat = x'.toNat := by omega
  have hy : y.toNat = y'.toNat := by omega
  exact Prod.ext (UInt8.toNat_inj.mp hx) (UInt8.toNat_inj.mp hy)

/-- A point is changed, if it is on the screen. -/
def paint (c : Bool → Bool) (x y : UInt8) (p : Picture) : Picture :=
  if OnScreen x y then dot c (x, y) p else p

theorem picture_eq (s : Screen) (i : UInt8 × UInt8) : s.picture i =
    (decide (OnScreen i.1 i.2) && (s (cell i.1 i.2)).toNat.testBit (i.2.toNat % 8)) := by
  unfold Screen.picture Screen.getPixel
  congr 1
  cases hbit : (s (cell i.1 i.2)).toNat.testBit (i.2.toNat % 8) with
  | false => exact decide_eq_false fun h => by rw [and_mask, hbit] at h; cases h
  | true => exact decide_eq_true ((and_mask _ _).mpr hbit)

/-- What is done to the bit of a point is done to the point, and to no other. -/
theorem draws_bit {g : UInt8 → UInt8} {c : Bool → Bool}
    (hg : ∀ (b : UInt8) (k : Nat), k < 8 → (g b).toNat.testBit k =
      if y.toNat % 8 = k then c (b.toNat.testBit k) else b.toNat.testBit k) :
    Draws (fun s => if OnScreen x y then Function.update s (cell x y) (g (s (cell x y))) else s)
      (paint c x y) := by
  intro s
  unfold paint
  simp only
  by_cases hon : OnScreen x y
  · rw [if_pos hon, if_pos hon]
    funext i
    rw [picture_eq, dot_apply]
    by_cases hi : OnScreen i.1 i.2
    · have hlt : i.2.toNat % 8 < 8 := Nat.mod_lt _ (by decide)
      by_cases hcell : cell i.1 i.2 = cell x y
      · rw [hcell, Function.update_self, hg _ _ hlt]
        by_cases hbit : y.toNat % 8 = i.2.toNat % 8
        · have heq : i = (x, y) := cell_inj hi hon hcell hbit.symm
          rw [if_pos hbit, if_pos heq, heq, picture_eq]
          simp only [decide_eq_true hon, Bool.true_and]
        · have hne : i ≠ (x, y) := fun heq => hbit (by rw [heq])
          rw [if_neg hbit, if_neg hne, picture_eq, hcell]
      · have hne : i ≠ (x, y) := fun heq => hcell (by rw [heq])
        rw [Function.update_of_ne hcell, if_neg hne, picture_eq]
    · have hne : i ≠ (x, y) := fun heq => hi (by rw [heq]; exact hon)
      rw [if_neg hne, picture_eq, decide_eq_false hi, Bool.false_and, Bool.false_and]
  · rw [if_neg hon, if_neg hon]

theorem draws_setPixel (x y : UInt8) :
    Draws (fun s => s.setPixel x y) (paint (fun _ => true) x y) := by
  refine draws_bit (g := fun b => b ||| mask y) (c := fun _ => true) fun b k _ => ?_
  rw [testBit_or_mask]
  by_cases hk : y.toNat % 8 = k
  · rw [if_pos hk, decide_eq_true hk, Bool.or_true]
  · rw [if_neg hk, decide_eq_false hk, Bool.or_false]

theorem draws_clearPixel (x y : UInt8) :
    Draws (fun s => s.clearPixel x y) (paint (fun _ => false) x y) := by
  refine draws_bit (g := fun b => b &&& ~~~mask y) (c := fun _ => false) fun b k hlt => ?_
  rw [testBit_and_not_mask b y hlt]
  by_cases hk : y.toNat % 8 = k
  · rw [if_pos hk, decide_eq_true hk, Bool.not_true, Bool.and_false]
  · rw [if_neg hk, decide_eq_false hk, Bool.not_false, Bool.and_true]

/-- Outside of the screen it does not matter what is read. -/
theorem draws_xorPixel (x y : UInt8) : Draws (fun s => s.xorPixel x y) (paint not x y) := by
  intro s
  have hset : (s.setPixel x y).picture = _ := draws_setPixel x y s
  have hclear : (s.clearPixel x y).picture = _ := draws_clearPixel x y s
  show (s.xorPixel x y).picture = _
  unfold Screen.xorPixel
  unfold paint at hset hclear ⊢
  by_cases hon : OnScreen x y
  · rw [if_pos hon] at hset hclear ⊢
    have hpixel : s.picture (x, y) = s.getPixel x y := by
      unfold Screen.picture
      rw [decide_eq_true hon, Bool.true_and]
    cases hget : s.getPixel x y with
    | true =>
        rw [if_pos rfl, hclear]
        unfold dot
        rw [hpixel, hget, Bool.not_true]
    | false =>
        rw [if_neg Bool.false_ne_true, hset]
        unfold dot
        rw [hpixel, hget, Bool.not_false]
  · rw [if_neg hon] at hset hclear ⊢
    split
    · exact hclear
    · exact hset

end Points

section Boxes

/-! ### Boxes -/

/-- The point is in the box. -/
def InBox (x1 y1 x2 y2 : UInt8) (i : UInt8 × UInt8) : Prop :=
  (x1 ≤ i.1 ∧ i.1 ≤ x2) ∧ y1 ≤ i.2 ∧ i.2 ≤ y2

instance (x1 y1 x2 y2 : UInt8) (i : UInt8 × UInt8) : Decidable (InBox x1 y1 x2 y2 i) :=
  inferInstanceAs (Decidable ((_ ∧ _) ∧ _ ∧ _))

/-- The points of a box on the screen are changed. -/
def fill (c : Bool → Bool) (x1 y1 x2 y2 : UInt8) (p : Picture) : Picture := fun i =>
  if InBox x1 y1 x2 y2 i ∧ OnScreen i.1 i.2 then c (p i) else p i

theorem fill_on (c : Bool → Bool) (x1 y1 x2 y2 : UInt8) :
    On (InBox x1 y1 x2 y2) (fill c x1 y1 x2 y2) where
  here := by
    intro p q i hpq
    unfold fill
    rw [hpq]
  beyond := fun p i hi => if_neg fun h => hi h.1

/-- What undoes itself does so in a box. -/
theorem fill_fill {c : Bool → Bool} (hc : ∀ b, c (c b) = b) (x1 y1 x2 y2 : UInt8) (p : Picture) :
    fill c x1 y1 x2 y2 (fill c x1 y1 x2 y2 p) = p := by
  funext i
  unfold fill
  split
  · exact hc _
  · rfl

variable {a b : UInt8} {l : List UInt8}

theorem mem_upTo (h : Screen.upTo a b = some l) (j : UInt8) : j ∈ l ↔ a ≤ j ∧ j ≤ b := by
  unfold Screen.upTo at h
  have hb := b.toNat_lt
  split at h
  · cases h
  · rw [← Option.some.inj h, List.mem_map]
    constructor
    · rintro ⟨n, hn, rfl⟩
      rw [List.mem_range'_1] at hn
      have hval : (UInt8.ofNat n).toNat = n := by
        rw [UInt8.toNat_ofNat']
        omega
      rw [UInt8.le_iff_toNat_le, UInt8.le_iff_toNat_le, hval]
      omega
    · rintro ⟨haj, hjb⟩
      rw [UInt8.le_iff_toNat_le] at haj hjb
      exact ⟨j.toNat, List.mem_range'_1.mpr (by omega), UInt8.ofNat_toNat⟩

/-- No value comes twice. -/
theorem nodup_upTo (h : Screen.upTo a b = some l) : l.Nodup := by
  unfold Screen.upTo at h
  have hb := b.toNat_lt
  split at h
  · cases h
  · rw [← Option.some.inj h]
    refine List.Nodup.map_on (fun m hm n hn heq => ?_) List.nodup_range'
    rw [List.mem_range'_1] at hm hn
    have hval := congrArg UInt8.toNat heq
    rw [UInt8.toNat_ofNat', UInt8.toNat_ofNat'] at hval
    omega

/-- Points that are all different are each changed, where they are on the screen. -/
theorem paint_points (c : Bool → Bool) {is : List (UInt8 × UInt8)} (h : is.Nodup) (p : Picture)
    (i : UInt8 × UInt8) :
    (i ∈ is ∧ OnScreen i.1 i.2 → is.foldl (fun p i => paint c i.1 i.2 p) p i = c (p i)) ∧
      (¬ (i ∈ is ∧ OnScreen i.1 i.2) → is.foldl (fun p i => paint c i.1 i.2 p) p i = p i) := by
  have hdots : ∀ (is : List (UInt8 × UInt8)) (p : Picture),
      is.foldl (fun p i => paint c i.1 i.2 p) p =
        dots c (is.filter fun i => decide (OnScreen i.1 i.2)) p := by
    intro is
    induction is with
    | nil => exact fun p => rfl
    | cons i is ih =>
        intro p
        rw [List.foldl_cons, ih]
        unfold paint
        by_cases hon : OnScreen i.1 i.2
        · rw [if_pos hon, List.filter_cons, if_pos (decide_eq_true hon)]
          rfl
        · rw [if_neg hon, List.filter_cons, if_neg (by rw [decide_eq_true_eq]; exact hon)]
  have hmem : i ∈ is.filter (fun i => decide (OnScreen i.1 i.2)) ↔ i ∈ is ∧ OnScreen i.1 i.2 := by
    rw [List.mem_filter, decide_eq_true_eq]
  rw [hdots]
  exact ⟨fun hin => dots_of_mem (h.filter _) (hmem.mpr hin) p,
    fun hout => dots_of_not_mem (fun hin => hout (hmem.mp hin)) p⟩

/-- A box in bytes is one in the picture. -/
theorem draws_box {draw : Screen → UInt8 → UInt8 → Screen} {c : Bool → Bool}
    (hdraw : ∀ x y, Draws (fun s => draw s x y) (paint c x y)) {s t : Screen}
    {x1 y1 x2 y2 : UInt8} (h : Screen.box draw s x1 y1 x2 y2 = some t) :
    t.picture = fill c x1 y1 x2 y2 s.picture := by
  unfold Screen.box at h
  cases hxs : Screen.upTo x1 x2 with
  | none =>
      rw [hxs] at h
      cases h
  | some xs =>
      rw [hxs] at h
      cases xs with
      | nil =>
          -- There is no column.
          cases h
          funext i
          refine (if_neg fun hin => ?_).symm
          exact absurd ((mem_upTo hxs i.1).mpr hin.1.1) List.not_mem_nil
      | cons x xs =>
          rcases Option.map_eq_some_iff.mp h with ⟨ys, hys, rfl⟩
          have hnodup : ((x :: xs) ×ˢ ys).Nodup := (nodup_upTo hxs).product (nodup_upTo hys)
          have hpoints : ∀ (xs : List UInt8) (p : Picture),
              xs.foldl (fun p x => ys.foldl (fun p y => paint c x y p) p) p =
                (xs ×ˢ ys).foldl (fun p i => paint c i.1 i.2 p) p := by
            intro xs
            induction xs with
            | nil => exact fun p => rfl
            | cons x xs ih =>
                intro p
                rw [List.foldl_cons, ih, List.product_cons, List.foldl_append, List.foldl_map]
          have hpicture := Draws.foldl (f := fun x p => ys.foldl (fun p y => paint c x y p) p)
            (fun x => Draws.foldl (fun y => hdraw x y) ys) (x :: xs) s
          have hin : ∀ i : UInt8 × UInt8, i ∈ (x :: xs) ×ˢ ys ↔ InBox x1 y1 x2 y2 i := by
            intro i
            rw [List.mem_product, mem_upTo hxs, mem_upTo hys]
            rfl
          rw [hpicture]
          simp only
          rw [hpoints]
          funext i
          rcases paint_points c hnodup s.picture i with ⟨hinside, houtside⟩
          rw [hin] at hinside houtside
          unfold fill
          by_cases hi : InBox x1 y1 x2 y2 i ∧ OnScreen i.1 i.2
          · rw [if_pos hi, hinside hi]
          · rw [if_neg hi, houtside hi]

/-- The loops over a box end unless they are to go to 255. -/
theorem box_isSome (draw : Screen → UInt8 → UInt8 → Screen) (s : Screen) (x1 y1 : UInt8)
    {x2 y2 : UInt8} (hx : x2 ≠ 255) (hy : y2 ≠ 255) :
    ∃ t, Screen.box draw s x1 y1 x2 y2 = some t := by
  unfold Screen.box Screen.upTo
  rw [if_neg hx, if_neg hy]
  split
  · next heq => cases heq
  · exact ⟨_, rfl⟩
  · exact ⟨_, rfl⟩

/-- A highlight inverts a box. -/
theorem drawHighlight_draws (s : Screen) (x1 y1 : UInt8) {x2 y2 : UInt8} (hx : x2 ≠ 255)
    (hy : y2 ≠ 255) :
    ∃ t, s.drawHighlight x1 y1 x2 y2 = some t ∧ t.picture = fill not x1 y1 x2 y2 s.picture := by
  rcases box_isSome Screen.xorPixel s x1 y1 hx hy with ⟨t, ht⟩
  exact ⟨t, ht, draws_box draws_xorPixel ht⟩

theorem eraseBox_draws (s : Screen) (x1 y1 : UInt8) {x2 y2 : UInt8} (hx : x2 ≠ 255)
    (hy : y2 ≠ 255) : ∃ t, s.eraseBox x1 y1 x2 y2 = some t ∧
      t.picture = fill (fun _ => false) x1 y1 x2 y2 s.picture := by
  rcases box_isSome Screen.clearPixel s x1 y1 hx hy with ⟨t, ht⟩
  exact ⟨t, ht, draws_box draws_clearPixel ht⟩

theorem draws_cls : Draws Screen.cls fun _ _ => false := by
  intro s
  funext i
  rw [picture_eq]
  by_cases hi : OnScreen i.1 i.2
  · have hzero : s.cls (cell i.1 i.2) = 0 := if_pos (cell_lt hi)
    rw [hzero]
    show (_ && (0 : Nat).testBit _) = false
    rw [Nat.zero_testBit, Bool.and_false]
  · rw [decide_eq_false hi, Bool.false_and]

end Boxes

end Lcd

end TimelapsePlus
