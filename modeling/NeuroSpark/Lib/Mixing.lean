import Mathlib

/-!
# Mixing words

Hash functions mix a state with one word after another. A step that can be undone, both in the state
and in the word, keeps two different states apart for ever; so a change of one word of many always
changes the hash. Shifting a word to the right and adding it to itself, and multiplying it with a
unit, can be undone.
-/

namespace Mixing

section

variable {α β : Type*} {step : α → β → α}

lemma foldl_injective (hstate : ∀ b, Function.Injective (step · b)) (l : List β) :
    Function.Injective (l.foldl step) := by
  induction l with
  | nil => exact Function.injective_id
  | cons b l ih => exact ih.comp (hstate b)

variable (step) in
/-- A word that is changed changes the state at the end. -/
theorem foldl_set_ne (hstate : ∀ b, Function.Injective (step · b))
    (hword : ∀ a, Function.Injective (step a)) {l : List β} {i : Nat} (hi : i < l.length) {b : β}
    (hb : b ≠ l[i]) (a : α) : (l.set i b).foldl step a ≠ l.foldl step a := by
  induction l generalizing a i with
  | nil => cases hi
  | cons c l ih =>
    cases i with
    | zero =>
      intro h
      exact hb (hword a (foldl_injective hstate l h))
    | succ i => exact ih (Nat.lt_of_succ_lt_succ hi) hb (step a c)

end

section

variable {w : Nat}

/-- A word with a copy of it, shifted to the right, added without carry. -/
def xorShift (k : Nat) (x : BitVec w) : BitVec w := x ^^^ (x >>> k)

@[simp] lemma xorShift_of_le {k : Nat} (h : w ≤ k) (x : BitVec w) : xorShift k x = x := by
  rw [xorShift, BitVec.ushiftRight_eq_zero h, BitVec.xor_zero]

lemma xorShift_xorShift (k : Nat) (x : BitVec w) :
    xorShift k (xorShift k x) = xorShift (2 * k) x := by
  have hcancel : x ^^^ x >>> k ^^^ (x >>> k ^^^ x >>> (2 * k)) = x ^^^ x >>> (2 * k) := by
    rw [BitVec.xor_assoc, ← BitVec.xor_assoc (x >>> k), BitVec.xor_self, BitVec.zero_xor]
  rw [xorShift, xorShift, xorShift, BitVec.ushiftRight_xor_distrib, ← BitVec.shiftRight_add,
    ← Nat.two_mul, hcancel]

lemma xorShift_iterate (k m : Nat) (x : BitVec w) :
    (xorShift k)^[2 ^ m] x = xorShift (2 ^ m * k) x := by
  induction m generalizing k with
  | zero => simp
  | succ m ih =>
    have htwice : (xorShift k : BitVec w → BitVec w)^[2] = xorShift (2 * k) :=
      funext (xorShift_xorShift k)
    rw [Nat.pow_succ, Nat.mul_comm, Function.iterate_mul, htwice, ih, Nat.mul_left_comm,
      Nat.mul_assoc]

/-- Done often enough it is undone. -/
theorem xorShift_bijective {k : Nat} (hk : 0 < k) :
    Function.Bijective (xorShift k : BitVec w → BitVec w) := by
  have hid : ∀ x : BitVec w, (xorShift k)^[2 ^ w - 1 + 1] x = x := fun x => by
    rw [Nat.sub_add_cancel Nat.one_le_two_pow, xorShift_iterate, xorShift_of_le]
    exact Nat.le_trans (Nat.le_of_lt Nat.lt_two_pow_self) (Nat.le_mul_of_pos_right _ hk)
  refine Function.bijective_iff_has_inverse.2 ⟨(xorShift k)^[2 ^ w - 1], fun x => ?_, fun x => ?_⟩
  · exact (Function.iterate_succ_apply (xorShift k) _ x).symm.trans (hid x)
  · exact (Function.iterate_succ_apply' (xorShift k) _ x).symm.trans (hid x)

lemma mul_bijective {c d : BitVec w} (h : c * d = 1#w) :
    Function.Bijective fun x : BitVec w => x * c := by
  refine Function.bijective_iff_has_inverse.2 ⟨(· * d), fun x => ?_, fun x => ?_⟩
  · change x * c * d = x
    rw [BitVec.mul_assoc, h, BitVec.mul_one]
  · change x * d * c = x
    rw [BitVec.mul_assoc, BitVec.mul_comm d c, h, BitVec.mul_one]

end

end Mixing
