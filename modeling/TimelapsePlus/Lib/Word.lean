import Mathlib.Tactic.Ring
import Mathlib.Data.Int.Basic

/-!
# Fixed-Width Words

The arithmetic of C integer types, on `Nat` and `Int`. A value of an unsigned
type is a natural number below its modulus and every store reduces by that
modulus; a value of an 8-bit signed type is an integer between -128 and 127
and a store takes the balanced remainder.

Working on `Nat` and `Int` rather than on `BitVec` keeps the places where the
width matters visible: a definition that never writes `u16` or `i8` is one
where no store can wrap.

## Main definitions

* `u8`, `u16`, `u32`: Storing a number in an unsigned type.
* `sub16`, `sub32`: Subtraction in an unsigned type, wrapping below zero.
* `i8`: Storing an integer in a signed 8-bit type.
* `i16`, `i32`: Storing an integer in a signed 16-bit or 32-bit type.
* `fit32`, `rem32`: Signed 32-bit arithmetic that has no value where C leaves it
  undefined.
* `le16`, `le32`: Little-endian words of a byte memory.
* `bytes`: A list of bytes as a memory.
* `store`: Copying a list of bytes to an address.
* `encode32`: The bytes of a word.

## Theorems

* `u16_of_lt`, `u32_of_lt`: A number below the modulus is stored as it is.
* `sub32_of_le`, `sub32_lt`: Subtraction that does not wrap, and any.
* `i8_of_mem`: An integer in range is stored as it is.
* `i8_add_i8`: A reduction inside a sum can be dropped.
* `le32_lt`: A word is below its modulus.
* `le32_congr`: A word depends only on the four bytes it names.
* `store_of_mem`, `store_of_not_mem`: What a store changes and what it leaves.
* `le16_store_of_le`: A word below the address stored to is left as it was.
* `le32_encode32`: A word read from its bytes.
-/

namespace TimelapsePlus

namespace Word

/-- Store in a `uint8_t`. -/
def u8 (n : Nat) : Nat := n % 256

/-- Store in a `uint16_t`. -/
def u16 (n : Nat) : Nat := n % 65536

/-- Store in a `uint32_t`. -/
def u32 (n : Nat) : Nat := n % 4294967296

/-- `a - b` in a `uint16_t`. -/
def sub16 (a b : Nat) : Nat := u16 (a + 65536 - b % 65536)

/-- `a - b` in a `uint32_t`. -/
def sub32 (a b : Nat) : Nat := u32 (a + 4294967296 - b % 4294967296)

/-- Store in an `int8_t`. -/
def i8 (z : Int) : Int := z.bmod 256

/-- Store in an `int`, of 16 bits. -/
def i16 (z : Int) : Int := z.bmod 65536

/-- Store in an `int32_t`. -/
def i32 (z : Int) : Int := z.bmod 4294967296

/-- The result of an `int32_t` operation, if it does not overflow. -/
def fit32 (z : Int) : Option Int :=
  if -2147483648 ≤ z ∧ z ≤ 2147483647 then some z else none

/-- `a % b` in an `int32_t`. -/
def rem32 (a b : Int) : Option Int :=
  if b = 0 ∨ a = -2147483648 ∧ b = -1 then none else some (Int.tmod a b)

theorem u8_of_lt {n : Nat} (h : n < 256) : u8 n = n := Nat.mod_eq_of_lt h

theorem u16_of_lt {n : Nat} (h : n < 65536) : u16 n = n := Nat.mod_eq_of_lt h

theorem u16_lt (n : Nat) : u16 n < 65536 := Nat.mod_lt _ (by decide)

theorem u32_of_lt {n : Nat} (h : n < 4294967296) : u32 n = n := Nat.mod_eq_of_lt h

theorem u32_lt (n : Nat) : u32 n < 4294967296 := Nat.mod_lt _ (by decide)

theorem sub32_lt (a b : Nat) : sub32 a b < 4294967296 := u32_lt _

theorem sub32_of_le {a b : Nat} (ha : a < 4294967296) (h : b ≤ a) : sub32 a b = a - b := by
  unfold sub32 u32
  rw [Nat.mod_eq_of_lt (by omega : b < 4294967296)]
  omega

theorem i8_of_mem {z : Int} (hlo : -128 ≤ z) (hhi : z ≤ 127) : i8 z = z := by
  unfold i8
  exact Int.bmod_eq_of_le (by omega) (by omega)

theorem i32_of_mem {z : Int} (hlo : -2147483648 ≤ z) (hhi : z ≤ 2147483647) : i32 z = z := by
  unfold i32
  exact Int.bmod_eq_of_le (by omega) (by omega)

/-- A reduction inside a sum can be dropped, the outer store reducing anyway. -/
theorem i8_add_i8 (a b : Int) : i8 (i8 a + b) = i8 (a + b) := by
  unfold i8
  exact Int.bmod_add_bmod

theorem i8_i8 (z : Int) : i8 (i8 z) = i8 z := by
  unfold i8
  exact Int.bmod_bmod

theorem i8_mem (z : Int) : -128 ≤ i8 z ∧ i8 z ≤ 127 := by
  unfold i8
  have hlo := Int.le_bmod (x := z) (m := 256) (by decide)
  have hhi := Int.bmod_lt (x := z) (m := 256) (by decide)
  omega

/-- Eight bits tell numbers apart that are less than 256 from one another. -/
theorem eq_zero_of_i8_add {z k : Int} (h : i8 z = i8 (z + k)) (hlo : -256 < k) (hhi : k < 256) :
    k = 0 := by
  have hmod : (z + k) % 256 = z % 256 := by
    have := congrArg (fun w => w % ((256 : Nat) : Int)) h
    simp only [i8, Int.bmod_emod] at this
    exact this.symm
  omega

/-- The little-endian 16-bit word at an address. -/
def le16 (mem : Nat → UInt8) (i : Nat) : Nat :=
  (mem i).toNat + 256 * (mem (i + 1)).toNat

/-- The little-endian 32-bit word at an address. -/
def le32 (mem : Nat → UInt8) (i : Nat) : Nat :=
  (mem i).toNat + 256 * (mem (i + 1)).toNat + 65536 * (mem (i + 2)).toNat
    + 16777216 * (mem (i + 3)).toNat

theorem le32_lt (mem : Nat → UInt8) (i : Nat) : le32 mem i < 4294967296 := by
  have h0 := (mem i).toNat_lt
  have h1 := (mem (i + 1)).toNat_lt
  have h2 := (mem (i + 2)).toNat_lt
  have h3 := (mem (i + 3)).toNat_lt
  unfold le32
  omega

theorem le32_mod (mem : Nat → UInt8) (i : Nat) : le32 mem i % 256 = (mem i).toNat := by
  have h0 := (mem i).toNat_lt
  unfold le32
  omega

theorem le32_congr {mem mem' : Nat → UInt8} {i i' : Nat}
    (h : ∀ k, k < 4 → mem (i + k) = mem' (i' + k)) : le32 mem i = le32 mem' i' := by
  have h0 := h 0 (by omega)
  simp only [Nat.add_zero] at h0
  unfold le32
  rw [h0, h 1 (by omega), h 2 (by omega), h 3 (by omega)]

/-- A list of bytes as a memory starting at address zero. -/
def bytes (l : List UInt8) (i : Nat) : UInt8 := l.getD i 0

/-- Copy a list of bytes to an address, leaving the rest of the memory. -/
def store (mem : Nat → UInt8) (dst : Nat) (l : List UInt8) (i : Nat) : UInt8 :=
  if dst ≤ i ∧ i < dst + l.length then bytes l (i - dst) else mem i

theorem store_of_mem (mem : Nat → UInt8) (dst : Nat) (l : List UInt8) {i : Nat}
    (hlo : dst ≤ i) (hhi : i < dst + l.length) : store mem dst l i = bytes l (i - dst) :=
  if_pos ⟨hlo, hhi⟩

theorem store_of_not_mem (mem : Nat → UInt8) (dst : Nat) (l : List UInt8) {i : Nat}
    (h : i < dst ∨ dst + l.length ≤ i) : store mem dst l i = mem i :=
  if_neg (by omega)

/-- A word below the address stored to is left as it was. -/
theorem le16_store_of_le (mem : Nat → UInt8) (l : List UInt8) {dst i : Nat} (h : i + 2 ≤ dst) :
    le16 (store mem dst l) i = le16 mem i := by
  unfold le16
  rw [store_of_not_mem mem dst l (by omega), store_of_not_mem mem dst l (by omega)]

theorem le32_store_of_le (mem : Nat → UInt8) (l : List UInt8) {dst i : Nat} (h : i + 4 ≤ dst) :
    le32 (store mem dst l) i = le32 mem i :=
  le32_congr fun _ _ => store_of_not_mem mem dst l (Or.inl (by omega))

/-- The four bytes of a word. -/
def encode32 (n : Nat) : List UInt8 :=
  [UInt8.ofNat n, UInt8.ofNat (n / 256), UInt8.ofNat (n / 65536), UInt8.ofNat (n / 16777216)]

theorem le32_encode32 {n : Nat} (h : n < 4294967296) (l : List UInt8) :
    le32 (bytes (encode32 n ++ l)) 0 = n := by
  have hbyte : ∀ m : Nat, (UInt8.ofNat m).toNat = m % 256 := fun m => UInt8.toNat_ofNat'
  simp only [le32, bytes, encode32, List.cons_append, List.getD_cons_zero, List.getD_cons_succ,
    Nat.zero_add, hbyte]
  omega

end Word

end TimelapsePlus
