import Mathlib.Data.List.FinRange
import Mathlib.Logic.Function.Basic
import Mathlib.Tactic.Common

/-!
# Tables of keyed slots

A table of `n` slots some of which are live. A value with a key is stored in the first live slot
with this key or, when there is none, in the first slot that is not live. As long as the keys of the
live slots are distinct, such a table is a finite map.
-/

namespace Keyed

variable {α κ : Type*} [DecidableEq κ] {n : Nat} (live : α → Bool) (key : α → κ)

/-- The first live slot with a key. -/
def find (f : Fin n → α) (k : κ) : Option (Fin n) :=
  (List.finRange n).find? fun i => live (f i) ∧ key (f i) = k

/-- The first slot that is not live. -/
def free (f : Fin n → α) : Option (Fin n) := (List.finRange n).find? fun i => ¬ live (f i)

/-- Where a value with a key is stored. -/
def place (f : Fin n → α) (k : κ) : Option (Fin n) := (find live key f k).or (free live f)

omit [DecidableEq κ] in
/-- No two live slots have the same key. -/
def Distinct (f : Fin n → α) : Prop :=
  ∀ i j, live (f i) → live (f j) → key (f i) = key (f j) → i = j

variable {live key} {f : Fin n → α} {k : κ} {i : Fin n} {v : α}

lemma of_find (h : find live key f k = some i) : live (f i) ∧ key (f i) = k := by
  simpa using List.find?_some h

lemma find_eq_none_iff : find live key f k = none ↔ ∀ i, live (f i) → key (f i) ≠ k := by
  simp [find]

lemma place_cases (h : place live key f k = some i) :
    (live (f i) ∧ key (f i) = k) ∨ ∀ j, live (f j) → key (f j) ≠ k := by
  cases hfind : find live key f k with
  | none => exact Or.inr (find_eq_none_iff.1 hfind)
  | some j =>
    rw [place, hfind] at h
    cases h
    exact Or.inl (of_find hfind)

lemma place_of_find (h : find live key f k = some i) : place live key f k = some i := by
  rw [place, h]
  rfl

lemma Distinct.eq_place (h : Distinct live key f) (hplace : place live key f k = some i)
    {j : Fin n} (hj : live (f j)) (hkey : key (f j) = k) : j = i := by
  rcases place_cases hplace with ⟨hlive, hi⟩ | hnone
  · exact h j i hj hlive (hkey.trans hi.symm)
  · exact absurd hkey (hnone j hj)

/-- Storing keeps the keys distinct. -/
theorem Distinct.store (h : Distinct live key f) (hplace : place live key f (key v) = some i) :
    Distinct live key (Function.update f i v) := by
  intro a b ha hb hkey
  by_cases hai : a = i
  · subst hai
    by_contra hba
    rw [Function.update_of_ne (Ne.symm hba)] at hb hkey
    rw [Function.update_self] at hkey
    exact hba (h.eq_place hplace hb hkey.symm).symm
  · rw [Function.update_of_ne hai] at ha hkey
    by_cases hbi : b = i
    · subst hbi
      rw [Function.update_self] at hkey
      exact h.eq_place hplace ha hkey
    · rw [Function.update_of_ne hbi] at hb hkey
      exact h a b ha hb hkey

lemma find_eq_some_iff_first : find live key f k = some i ↔
    (live (f i) ∧ key (f i) = k) ∧ ∀ j < i, live (f j) → key (f j) ≠ k := by
  constructor
  · intro h
    refine ⟨of_find h, fun j hj hlive hkey => ?_⟩
    obtain ⟨-, m, hm, hi, hbefore⟩ := List.find?_eq_some_iff_getElem.1 h
    rw [List.getElem_finRange] at hi
    have hjm : j.val < m := by
      rw [← hi] at hj
      exact hj
    have hnot := hbefore j.val hjm
    simp [hlive, hkey] at hnot
  · rintro ⟨hi, hbefore⟩
    refine List.find?_eq_some_iff_getElem.2 ⟨by simpa using hi, i.val, by simp, by simp, ?_⟩
    intro j hj
    have hnot := hbefore ⟨j, hj.trans i.isLt⟩ hj
    by_cases hlive : live (f ⟨j, hj.trans i.isLt⟩)
    · simpa [hlive] using hnot hlive
    · simp [hlive]

/-- What was stored is found. -/
theorem find_store (hv : live v) (hplace : place live key f (key v) = some i) :
    find live key (Function.update f i v) (key v) = some i := by
  refine find_eq_some_iff_first.2 ⟨by simp [hv], fun j hj => ?_⟩
  rw [Function.update_of_ne hj.ne]
  cases hfind : find live key f (key v) with
  | none => exact find_eq_none_iff.1 hfind j
  | some m =>
    obtain rfl := Option.some.inj ((place_of_find hfind).symm.trans hplace)
    exact (find_eq_some_iff_first.1 hfind).2 j hj

end Keyed
