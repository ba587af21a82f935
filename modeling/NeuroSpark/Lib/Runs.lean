import Mathlib.Algebra.Order.Interval.Finset.SuccPred
import Mathlib.Data.Set.Card
import Mathlib.Order.Bounds.Basic
import Mathlib.Order.Interval.Finset.Nat
import Mathlib.Tactic.Common

/-!
# Runs of a predicate on an interval

A *block* of `P` in `[lo, hi)` is an interval of it all of whose members satisfy `P`; a *run* is a
nonempty block that no longer block contains. A scan from `lo` upwards knows the length of the block
that ends where it stands, the length of the longest block so far and how many runs it has met.
-/

namespace Runs

variable {P : Nat → Prop} {lo hi i : Nat}

/-- `P` holds on `[a, b)`, which lies in `[lo, hi)`. -/
structure IsBlock (P : Nat → Prop) (lo hi a b : Nat) : Prop where
  lower : lo ≤ a
  ordered : a ≤ b
  upper : b ≤ hi
  all : ∀ j, a ≤ j → j < b → P j

/-- A nonempty block that can be extended to neither side. -/
structure IsRun (P : Nat → Prop) (lo hi a b : Nat) : Prop extends IsBlock P lo hi a b where
  nonempty : a < b
  left : a = lo ∨ ¬ P (a - 1)
  right : b = hi ∨ ¬ P b

/-- A run starts here. -/
def IsStart (P : Nat → Prop) (lo a : Nat) : Prop := P a ∧ (a = lo ∨ ¬ P (a - 1))

instance [DecidablePred P] : DecidablePred (IsStart P lo) := fun a =>
  inferInstanceAs (Decidable (P a ∧ (a = lo ∨ ¬ P (a - 1))))

lemma IsBlock.mono (h : IsBlock P lo hi i j) {hi' : Nat} (hle : hi ≤ hi') : IsBlock P lo hi' i j :=
  ⟨h.lower, h.ordered, h.upper.trans hle, h.all⟩

lemma IsRun.isStart {a b : Nat} (h : IsRun P lo hi a b) : IsStart P lo a :=
  ⟨h.all a le_rfl h.nonempty, h.left⟩

lemma IsStart.exists_isRun {a : Nat} (h : IsStart P lo a) (hlo : lo ≤ a) (hhi : a < hi) :
    ∃ b, IsRun P lo hi a b := by
  classical
  have hend : ∃ b, a < b ∧ (b = hi ∨ ¬ P b) := ⟨hi, hhi, Or.inl rfl⟩
  have hb := Nat.find_spec hend
  have hle : Nat.find hend ≤ hi := Nat.find_le ⟨hhi, Or.inl rfl⟩
  refine ⟨Nat.find hend, ⟨hlo, hb.1.le, hle, fun j hj hjb => ?_⟩, hb.1, h.2, hb.2⟩
  rcases hj.eq_or_lt with rfl | hj
  · exact h.1
  · by_contra hnot
    exact Nat.find_min hend hjb ⟨hj, Or.inr hnot⟩

lemma IsRun.eq_of_start {a b b' : Nat} (h : IsRun P lo hi a b) (h' : IsRun P lo hi a b') :
    b = b' := by
  wlog hlt : b < b' generalizing b b' with hsym
  · rcases (not_lt.1 hlt).eq_or_lt with heq | hgt
    · exact heq.symm
    · exact (hsym h' h hgt).symm
  rcases h.right with rfl | hnot
  · exact absurd h'.upper (not_le.2 hlt)
  · exact absurd (h'.all b h.ordered hlt) hnot

/-- There are as many runs as places where one starts. -/
theorem ncard_runs [DecidablePred P] :
    {r : Nat × Nat | IsRun P lo hi r.1 r.2}.ncard =
      ((Finset.Ico lo hi).filter (IsStart P lo)).card := by
  rw [← Set.ncard_coe_finset]
  refine Set.ncard_congr (fun r _ => r.1) ?_ ?_ ?_
  · rintro ⟨a, b⟩ h
    have h : IsRun P lo hi a b := h
    simpa using ⟨⟨h.lower, h.nonempty.trans_le h.upper⟩, h.isStart⟩
  · rintro ⟨a, b⟩ ⟨a', b'⟩ h h' (rfl : a = a')
    exact Prod.ext rfl (IsRun.eq_of_start h h')
  · intro a ha
    obtain ⟨hmem, hstart⟩ := Finset.mem_filter.1 (Finset.mem_coe.1 ha)
    obtain ⟨hlo, hhi⟩ := Finset.mem_Ico.1 hmem
    obtain ⟨b, hb⟩ := hstart.exists_isRun hlo hhi
    exact ⟨(a, b), hb, rfl⟩

/-- What a scan of `[lo, i)` knows: the length of the block at its end, the length of the longest
block, and the number of starts. -/
structure Scanned (P : Nat → Prop) [DecidablePred P] (lo i current longest starts : Nat) :
    Prop where
  current_le : lo + current ≤ i
  current_all : ∀ j, i ≤ j + current → j < i → P j
  current_left : lo + current = i ∨ ¬ P (i - current - 1)
  longest_block : ∃ a, IsBlock P lo i a (a + longest)
  longest_max : ∀ a b, IsBlock P lo i a b → b ≤ a + longest
  starts_card : ((Finset.Ico lo i).filter (IsStart P lo)).card = starts

variable [DecidablePred P] {current longest starts : Nat}

lemma Scanned.start : Scanned P lo lo 0 0 0 where
  current_le := le_rfl
  current_all j hj hlt := by omega
  current_left := Or.inl rfl
  longest_block := ⟨lo, le_rfl, le_rfl, le_rfl, fun j hj hlt => by omega⟩
  longest_max a b h := by
    have := h.lower
    have := h.upper
    omega
  starts_card := by simp

lemma card_filter_succ (hi : lo ≤ i) :
    ((Finset.Ico lo (i + 1)).filter (IsStart P lo)).card =
      ((Finset.Ico lo i).filter (IsStart P lo)).card + if IsStart P lo i then 1 else 0 := by
  rw [← Finset.insert_Ico_right_eq_Ico_add_one hi, Finset.filter_insert]
  split_ifs with h
  · rw [Finset.card_insert_of_notMem (by simp)]
  · rw [Nat.add_zero]

lemma Scanned.block_le (h : Scanned P lo i current longest starts) {a : Nat}
    (hb : IsBlock P lo i a i) : i ≤ a + current := by
  rcases h.current_left with heq | hnot
  · have := hb.lower
    omega
  · by_contra hlt
    refine hnot (hb.all _ (by omega) ?_)
    omega

lemma Scanned.isStart_iff (h : Scanned P lo i current longest starts) (hP : P i) :
    IsStart P lo i ↔ current = 0 := by
  have hle := h.current_le
  constructor
  · rintro ⟨-, rfl | hnot⟩
    · omega
    · by_contra hne
      exact hnot (h.current_all _ (by omega) (by omega))
  · rintro rfl
    refine ⟨hP, ?_⟩
    rcases h.current_left with heq | hnot
    · exact Or.inl heq.symm
    · exact Or.inr hnot

lemma Scanned.hit (h : Scanned P lo i current longest starts) (hP : P i) :
    Scanned P lo (i + 1) (current + 1) (max longest (current + 1))
      (if current = 0 then starts + 1 else starts) where
  current_le := by
    have := h.current_le
    omega
  current_all j hj hlt := by
    rcases Nat.lt_succ_iff_lt_or_eq.1 hlt with hlt | rfl
    · exact h.current_all j (by omega) hlt
    · exact hP
  current_left := by
    rcases h.current_left with heq | hnot
    · exact Or.inl (by omega)
    · exact Or.inr (by rwa [Nat.add_sub_add_right])
  longest_block := by
    have hle := h.current_le
    rcases le_total (current + 1) longest with hmax | hmax
    · obtain ⟨a, ha⟩ := h.longest_block
      rw [max_eq_left hmax]
      exact ⟨a, ha.mono (Nat.le_succ i)⟩
    · refine ⟨i - current, by omega, by omega, by omega, fun j hj hlt => ?_⟩
      rcases (show j ≤ i by omega).eq_or_lt with rfl | hji
      · exact hP
      · exact h.current_all j (by omega) hji
  longest_max a b hb := by
    rcases hb.upper.eq_or_lt with rfl | hlt
    · have hle := hb.ordered
      rcases hle.eq_or_lt with rfl | hab
      · omega
      · have := h.block_le ⟨hb.lower, Nat.lt_succ_iff.1 hab, le_rfl, fun j hj hji =>
          hb.all j hj (by omega)⟩
        omega
    · have := h.longest_max a b ⟨hb.lower, hb.ordered, Nat.lt_succ_iff.1 hlt, hb.all⟩
      omega
  starts_card := by
    rw [card_filter_succ ((Nat.le_add_right _ _).trans h.current_le), h.starts_card]
    simp only [h.isStart_iff hP]
    split_ifs <;> rfl

lemma Scanned.miss (h : Scanned P lo i current longest starts) (hP : ¬ P i) :
    Scanned P lo (i + 1) 0 longest starts where
  current_le := by
    have := h.current_le
    omega
  current_all j hj hlt := by omega
  current_left := Or.inr (by simpa using hP)
  longest_block := by
    obtain ⟨a, ha⟩ := h.longest_block
    exact ⟨a, ha.mono (Nat.le_succ i)⟩
  longest_max a b hb := by
    rcases hb.upper.eq_or_lt with rfl | hlt
    · rcases hb.ordered.eq_or_lt with rfl | hab
      · omega
      · exact absurd (hb.all i (Nat.lt_succ_iff.1 hab) (Nat.lt_succ_self i)) hP
    · exact h.longest_max a b ⟨hb.lower, hb.ordered, Nat.lt_succ_iff.1 hlt, hb.all⟩
  starts_card := by
    have hnot : ¬ IsStart P lo i := fun hs => hP hs.1
    rw [card_filter_succ ((Nat.le_add_right _ _).trans h.current_le), h.starts_card, if_neg hnot,
      Nat.add_zero]

lemma Scanned.isGreatest (h : Scanned P lo i current longest starts) :
    IsGreatest {n | ∃ a, IsBlock P lo i a (a + n)} longest :=
  ⟨h.longest_block, fun _ ⟨a, ha⟩ => Nat.add_le_add_iff_left.1 (h.longest_max a _ ha)⟩

end Runs
