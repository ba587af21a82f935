import Mathlib.Data.UInt
import Mathlib.Tactic.Common

/-!
# Sequence numbers that wrap

Numbers of 32 bits on a circle. `ahead a b` is how many steps lead from `a` on to `b`; stretches of
less than the whole circle add up, and the order of the numbers as words says whether the stretch
from one to the other passes zero.
-/

namespace Sequence

variable {a b c : UInt32} {n : ℕ}

/-- The number of steps from `a` on to `b`. -/
def ahead (a b : UInt32) : ℕ := (b - a).toNat

lemma ahead_eq (a b : UInt32) : ahead a b = (4294967296 - a.toNat + b.toNat) % 4294967296 := by
  rw [ahead, UInt32.toNat_sub]

lemma ahead_lt (a b : UInt32) : ahead a b < 4294967296 := UInt32.toNat_lt _

@[simp] lemma ahead_self (a : UInt32) : ahead a a = 0 := by simp [ahead]

lemma ahead_eq_zero : ahead a b = 0 ↔ a = b := by
  constructor
  · intro h
    have hle := UInt32.toNat_lt a
    have hlt := UInt32.toNat_lt b
    rw [ahead_eq] at h
    exact UInt32.toNat_inj.1 (by omega)
  · rintro rfl
    exact ahead_self a

lemma ahead_trans (a b c : UInt32) : ahead a c = (ahead a b + ahead b c) % 4294967296 := by
  have ha := UInt32.toNat_lt a
  have hb := UInt32.toNat_lt b
  have hc := UInt32.toNat_lt c
  rw [ahead_eq, ahead_eq, ahead_eq]
  omega

lemma ahead_add_ofNat (h : ahead a b + n < 4294967296) :
    ahead a (b + UInt32.ofNat n) = ahead a b + n := by
  have hstep : ahead b (b + UInt32.ofNat n) = n := by
    rw [ahead, add_sub_cancel_left]
    exact UInt32.toNat_ofNat_of_lt' (by change n < 4294967296; omega)
  rw [ahead_trans a b, hstep, Nat.mod_eq_of_lt h]

lemma add_ofNat_ahead (a b : UInt32) : a + UInt32.ofNat (ahead a b) = b := by
  rw [ahead, UInt32.ofNat_toNat, add_sub_cancel]

lemma ahead_of_le (h : ahead a b ≤ ahead a c) : ahead b c = ahead a c - ahead a b := by
  have htrans := ahead_trans a b c
  have hlt := ahead_lt b c
  have hlt' := ahead_lt a b
  omega

lemma ahead_of_lt (h : ahead a c < ahead a b) : ahead b c = 4294967296 + ahead a c - ahead a b := by
  have htrans := ahead_trans a b c
  have hlt := ahead_lt b c
  have hlt' := ahead_lt a b
  omega

lemma ahead_of_word_le (h : a ≤ b) : ahead a b = b.toNat - a.toNat := by
  have hle := UInt32.le_iff_toNat_le.1 h
  have hlt := UInt32.toNat_lt b
  rw [ahead_eq]
  omega

end Sequence
