import Mathlib

/-!
# Signed words

Sums, differences, quotients and conversions of 32-bit signed words that do not wrap around.
-/

namespace Signed

variable {a b c d : Int32}

lemma bmod_of_bounds {x : Int} (hlo : -2147483648 ≤ x) (hhi : x < 2147483648) :
    x.bmod (2 ^ 32) = x := by
  rw [Int.bmod_eq_emod]
  split_ifs <;> omega

lemma toInt_add_of_bounds (hlo : -2147483648 ≤ a.toInt + b.toInt)
    (hhi : a.toInt + b.toInt < 2147483648) : (a + b).toInt = a.toInt + b.toInt := by
  rw [Int32.toInt_add, bmod_of_bounds hlo hhi]

lemma toInt_sub_of_bounds (hlo : -2147483648 ≤ a.toInt - b.toInt)
    (hhi : a.toInt - b.toInt < 2147483648) : (a - b).toInt = a.toInt - b.toInt := by
  rw [Int32.toInt_sub, bmod_of_bounds hlo hhi]

lemma toInt_neg_of_bounds (h : -2147483648 < a.toInt) (hhi : a.toInt < 2147483648) :
    (-a).toInt = -a.toInt := by
  rw [Int32.toInt_neg, bmod_of_bounds (by omega) (by omega)]

lemma toInt_div_of_pos (hb : 1 ≤ b) : (a / b).toInt = a.toInt.tdiv b.toInt :=
  Int32.toInt_div_of_ne_right a b (by rintro rfl; exact absurd hb (by decide))

lemma div_bounds (ha : 0 ≤ a ∧ a ≤ d) (hb : 1 ≤ b) (h : d.toInt ≤ c.toInt * b.toInt) :
    0 ≤ a / b ∧ a / b ≤ c := by
  have hb0 : (0 : Int) < b.toInt := lt_of_lt_of_le (by decide) (Int32.le_iff_toInt_le.1 hb)
  have ha0 : (0 : Int) ≤ a.toInt := Int32.le_iff_toInt_le.1 ha.1
  rw [Int32.le_iff_toInt_le, Int32.le_iff_toInt_le, toInt_div_of_pos hb,
    Int.tdiv_eq_ediv_of_nonneg ha0]
  exact ⟨Int.ediv_nonneg ha0 hb0.le,
    Int.ediv_le_of_le_mul hb0 ((Int32.le_iff_toInt_le.1 ha.2).trans h)⟩

lemma div_le_of_le (ha : a ≤ c) (hc : 0 ≤ c) (hb : 1 ≤ b) : a / b ≤ c := by
  have hb0 : (0 : Int) ≤ b.toInt := (by decide : (0 : Int) ≤ 1).trans (Int32.le_iff_toInt_le.1 hb)
  rw [Int32.le_iff_toInt_le] at ha hc ⊢
  rw [toInt_div_of_pos hb]
  rcases le_total 0 a.toInt with h0 | h0
  · exact (Int.tdiv_le_self _ h0).trans ha
  · have hneg := Int.tdiv_nonneg (neg_nonneg.2 h0) hb0
    rw [Int.neg_tdiv] at hneg
    exact (neg_nonneg.1 hneg).trans hc

lemma toInt_toInt32 {u : UInt32} (h : u.toNat < 2147483648) : u.toInt32.toInt = u.toNat := by
  have hbits : u.toInt32.toInt = u.toBitVec.toInt := rfl
  rw [hbits, BitVec.toInt_eq_toNat_of_lt]
  · rfl
  · change 2 * u.toNat < 2 ^ 32
    omega

end Signed
