import Mathlib.Data.List.Range
import Mathlib.Data.List.TakeWhile
import Mathlib.Order.Bounds.Basic
import NeuroSpark.Lib.Word

/-!
# First fit over groups

The numbers from `lo` up to `hi` lie in groups of `per`: slot `i` of group `g` is the number `lo + g
* per + i`. A scan looks at the groups in order and in each at its slots in order, up to the first
number out of range. What it finds is the least free number.
-/

open Word

namespace FirstFit

variable {lo hi per : Nat} {used : Nat → Bool}

/-- The numbers in range that are not in use. -/
def freeSet (lo hi : Nat) (used : Nat → Bool) : Set Nat := {x | lo ≤ x ∧ x < hi ∧ used x = false}

/-- The first free slot of a group. -/
def freeSlot (lo hi per : Nat) (used : Nat → Bool) (g : Nat) : Option Nat :=
  (List.range (min per (hi - (lo + g * per)))).find? fun i => !used (lo + g * per + i)

lemma mem_of_freeSlot {g i : Nat} (h : freeSlot lo hi per used g = some i) :
    i < per ∧ lo + g * per + i < hi := by
  obtain ⟨-, hmem, -⟩ := List.find?_range_eq_some.mp h
  rw [List.mem_range] at hmem
  omega

/-- Every number in range before the group `g` is in use. -/
def UsedBefore (lo hi per : Nat) (used : Nat → Bool) (g : Nat) : Prop :=
  ∀ x, lo ≤ x → x < hi → x < lo + g * per → used x = true

lemma usedBefore_zero : UsedBefore lo hi per used 0 := by
  intro x hlo _ hlt
  rw [Nat.zero_mul] at hlt
  exact absurd hlt (by omega)

lemma UsedBefore.used_of_slots {g n : Nat} (h : UsedBefore lo hi per used g)
    (hslots : ∀ i, i < n → used (lo + g * per + i) = true) {x : Nat} (hlo : lo ≤ x) (hhi : x < hi)
    (hx : x < lo + g * per + n) : used x = true := by
  by_cases hbefore : x < lo + g * per
  · exact h x hlo hhi hbefore
  · have hslot := hslots (x - (lo + g * per)) (by omega)
    rwa [Nat.add_sub_cancel' (by omega)] at hslot

lemma UsedBefore.succ {g : Nat} (h : UsedBefore lo hi per used g)
    (hnone : freeSlot lo hi per used g = none) : UsedBefore lo hi per used (g + 1) := by
  intro x hlo hhi hx
  rw [freeSlot, List.find?_eq_none] at hnone
  have hslots : ∀ i, i < min per (hi - (lo + g * per)) → used (lo + g * per + i) = true := by
    intro i hi
    simpa using hnone i (List.mem_range.mpr hi)
  rw [Nat.succ_mul] at hx
  apply h.used_of_slots hslots hlo hhi
  omega

lemma UsedBefore.isLeast {g i : Nat} (h : UsedBefore lo hi per used g)
    (hsome : freeSlot lo hi per used g = some i) :
    i < per ∧ IsLeast (freeSet lo hi used) (lo + g * per + i) := by
  obtain ⟨hfree, hmem, hbefore⟩ := List.find?_range_eq_some.mp hsome
  rw [List.mem_range] at hmem
  refine ⟨by omega, ⟨by omega, by omega, by simpa using hfree⟩, ?_⟩
  rintro x ⟨hlo, hhi, hx⟩
  by_contra hlt
  have hused := h.used_of_slots (fun j hj => by simpa using hbefore j hj) hlo hhi (by omega)
  rw [hx] at hused
  cases hused

lemma UsedBefore.all {g : Nat} (h : UsedBefore lo hi per used g) (hg : hi ≤ lo + g * per) {x : Nat}
    (hlo : lo ≤ x) (hhi : x < hi) : used x = true :=
  h x hlo hhi (by omega)

lemma find?_congr {α : Type*} {p q : α → Bool} {l : List α} (h : ∀ x ∈ l, p x = q x) :
    l.find? p = l.find? q := by
  induction l with
  | nil => rfl
  | cons x l ih =>
    have hl := ih fun y hy => h y (List.mem_cons_of_mem _ hy)
    rw [List.find?_cons, List.find?_cons, h x (List.mem_cons_self ..), hl]

lemma takeWhile_range_u32 {base : Nat} (hbase : base < 4294967296) (hhi : hi < 4294967296) :
    ((List.range per).takeWhile fun i => decide (u32 (base + i) < hi)) =
      List.range (min per (hi - base)) := by
  have hin : ∀ i, i < hi - base → decide (u32 (base + i) < hi) = true := by
    intro i hi
    rw [u32_of_lt (by omega), decide_eq_true_eq]
    omega
  rcases Nat.le_total per (hi - base) with hle | hle
  · rw [Nat.min_eq_left hle, List.takeWhile_eq_self_iff]
    intro i hi
    exact hin i (by have := List.mem_range.mp hi; omega)
  · rw [Nat.min_eq_right hle]
    obtain ⟨rest, rfl⟩ := Nat.exists_eq_add_of_le hle
    rw [List.range_add, List.takeWhile_append_of_pos fun i hi => hin i (List.mem_range.mp hi)]
    cases rest with
    | zero => simp
    | succ rest =>
      have hout : ¬ u32 (base + (hi - base + 0)) < hi := by
        unfold u32
        omega
      rw [List.range_succ_eq_map, List.map_cons, List.takeWhile_cons_of_neg (by simpa using hout),
        List.append_nil]

end FirstFit
