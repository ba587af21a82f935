import Mathlib.Data.Fintype.Card
import Mathlib.Data.Set.Card
import Mathlib.Logic.Function.Basic
import Mathlib.Tactic.Common

/-!
# Tables and how often a value occurs in them

A table over a finite index type is a function. `Table.count f c` is the number of indices that
hold `c`; storing one entry changes the counts of the old and of the new value by one.
-/

namespace Table

variable {α γ : Type*} [Fintype α] [DecidableEq γ]

/-- The number of entries with value `c`. -/
def count (f : α → γ) (c : γ) : Nat := (Finset.univ.filter fun a => f a = c).card

lemma count_pos_iff {f : α → γ} {c : γ} : 0 < count f c ↔ ∃ a, f a = c := by
  simp [count, Finset.card_pos, Finset.filter_nonempty_iff]

lemma count_eq_zero_iff {f : α → γ} {c : γ} : count f c = 0 ↔ ∀ a, f a ≠ c := by
  simp [count, Finset.card_eq_zero, Finset.filter_eq_empty_iff]

variable [DecidableEq α]

lemma count_update_other {f : α → γ} {a : α} {v c : γ} (hold : f a ≠ c) (hnew : v ≠ c) :
    count (Function.update f a v) c = count f c := by
  unfold count
  congr 1
  ext b
  by_cases hb : b = a
  · subst hb
    simp [hold, hnew]
  · simp [hb]

lemma count_update_new {f : α → γ} {a : α} {c : γ} (hold : f a ≠ c) :
    count (Function.update f a c) c = count f c + 1 := by
  have hset : (Finset.univ.filter fun b => Function.update f a c b = c) =
      insert a (Finset.univ.filter fun b => f b = c) := by
    ext b
    by_cases hb : b = a
    · subst hb
      simp
    · simp [hb]
  rw [count, hset, Finset.card_insert_of_notMem (by simp [hold]), count]

lemma count_update_old {f : α → γ} {a : α} {v c : γ} (hold : f a = c) (hnew : v ≠ c) :
    count (Function.update f a v) c + 1 = count f c := by
  have h := count_update_new (f := Function.update f a v) (a := a) (c := c) (by simpa using hnew)
  rw [Function.update_idem, ← hold, Function.update_eq_self] at h
  rw [← hold]
  exact h.symm

omit [Fintype α] [DecidableEq γ] [DecidableEq α] in
lemma ncard_le_succ [Finite α] {A B : Set α} {t : α} (h : ∀ x, x ≠ t → x ∈ A → x ∈ B) :
    A.ncard ≤ B.ncard + 1 := by
  have hsub : A ⊆ insert t B := fun x hx => by
    by_cases hxt : x = t
    · exact Or.inl hxt
    · exact Or.inr (h x hxt hx)
  exact (Set.ncard_le_ncard hsub).trans (Set.ncard_insert_le t B)

omit [Fintype α] [DecidableEq γ] [DecidableEq α] in
lemma ncard_succ_le [Finite α] {A B : Set α} {t : α} (h : A ⊆ B) (hnew : t ∈ B) (hold : t ∉ A) :
    A.ncard + 1 ≤ B.ncard :=
  Set.ncard_lt_ncard ⟨h, fun hBA => hold (hBA hnew)⟩

omit [Fintype α] [DecidableEq γ] [DecidableEq α] in
lemma ncard_le_of_exchange [Finite α] {A B : Set α} {t u : α}
    (h : ∀ x, x ≠ t → x ∈ A → x ∈ B) (hnew : u ∈ B) (hold : u ∉ A) : A.ncard ≤ B.ncard := by
  have hleave : A.ncard ≤ (B \ {u}).ncard + 1 := ncard_le_succ (t := t) fun x hxt hx =>
    ⟨h x hxt hx, fun hxu => hold (hxu ▸ hx)⟩
  rwa [Set.ncard_sdiff_singleton_add_one hnew] at hleave

end Table
