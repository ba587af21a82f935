import Mathlib.Data.Int.Basic
import Mathlib.Tactic.Common

/-!
# 32-bit words

Unsigned 32-bit values are natural numbers, reduced with `u32` wherever the arithmetic may leave
the word; `i32` reads such a value as a signed one and `ofInt32` goes back.
-/

namespace Word

/-- The value of an unsigned 32-bit expression. -/
def u32 (n : Nat) : Nat := n % 4294967296

lemma u32_lt (n : Nat) : u32 n < 4294967296 := Nat.mod_lt _ (by decide)

lemma u32_of_lt {n : Nat} (h : n < 4294967296) : u32 n = n := Nat.mod_eq_of_lt h

/-- Unsigned 32-bit subtraction. -/
def sub32 (a b : Nat) : Nat := u32 (a + 4294967296 - b)

lemma sub32_of_le {a b : Nat} (h : b ≤ a) (ha : a < 4294967296) : sub32 a b = a - b := by
  unfold sub32 u32
  omega

/-- The signed reading of an integer modulo `2^32`. -/
def i32 (n : Int) : Int := Int.bmod n 4294967296

/-- The unsigned reading of an integer modulo `2^32`. -/
def ofInt32 (n : Int) : Nat := (n % 4294967296).toNat

lemma i32_of_range {n : Int} (h₁ : -2147483648 ≤ n) (h₂ : n < 2147483648) : i32 n = n := by
  unfold i32
  rw [Int.bmod_def]
  omega

end Word
