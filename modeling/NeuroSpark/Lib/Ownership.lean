import Mathlib.Logic.Function.Basic
import Mathlib.Tactic.Common

/-!
# Exclusive ownership

Owners of type `N` hold resources of type `P`, each in a slot of type `S`: `ptr n s` is what owner
`n` has in slot `s`. The ownership is exclusive when every resource that is held is marked used and
no resource is held twice. Two changes keep it: holding less, and taking one resource that was not
used.
-/

namespace Ownership

open Function (update update_self update_of_ne)

variable {N S P : Type*}

/-- Held resources are used, and each is held once. -/
structure Exclusive (ptr : N → S → Option P) (used : P → Prop) : Prop where
  used : ∀ {n s p}, ptr n s = some p → used p
  unique : ∀ {n s n' s' p}, ptr n s = some p → ptr n' s' = some p → n = n' ∧ s = s'

variable {ptr ptr' : N → S → Option P} {used used' : P → Prop}

/-- Every slot holds what it held before or nothing, and what is still held is still used. -/
theorem Exclusive.mono (h : Exclusive ptr used)
    (hptr : ∀ n s p, ptr' n s = some p → ptr n s = some p)
    (hused : ∀ n s p, ptr' n s = some p → used p → used' p) : Exclusive ptr' used' where
  used he := hused _ _ _ he (h.used (hptr _ _ _ he))
  unique he he' := h.unique (hptr _ _ _ he) (hptr _ _ _ he')

/-- One slot takes a resource that was not used. -/
theorem Exclusive.grow (h : Exclusive ptr used) {n₀ : N} {s₀ : S} {p₀ : P} (hfree : ¬ used p₀)
    (hptr : ∀ n s p, ptr' n s = some p → ptr n s = some p ∨ n = n₀ ∧ s = s₀ ∧ p = p₀)
    (hused : ∀ p, used p → used' p) (hnew : used' p₀) : Exclusive ptr' used' where
  used he := by
    rcases hptr _ _ _ he with hold | ⟨-, -, rfl⟩
    · exact hused _ (h.used hold)
    · exact hnew
  unique he he' := by
    rcases hptr _ _ _ he with hold | ⟨rfl, rfl, rfl⟩
    · rcases hptr _ _ _ he' with hold' | ⟨-, -, rfl⟩
      · exact h.unique hold hold'
      · exact absurd (h.used hold) hfree
    · rcases hptr _ _ _ he' with hold' | ⟨rfl, rfl, -⟩
      · exact absurd (h.used hold') hfree
      · exact ⟨rfl, rfl⟩

/-- One owner against a background of resources that are used by others: the used resources are
exactly those of the background and those that the owner holds, and the owner holds each once. -/
structure Accounts (base : P → Prop) (own : S → Option P) (used : P → Prop) : Prop where
  used_iff : ∀ p, used p ↔ base p ∨ ∃ s, own s = some p
  fresh : ∀ {s p}, own s = some p → ¬ base p
  unique : ∀ {s s' p}, own s = some p → own s' = some p → s = s'

variable {base : P → Prop} {own own' : S → Option P}

lemma Accounts.of_empty (base : P → Prop) : Accounts base (fun _ : S => none) base where
  used_iff p := by simp
  fresh h := by cases h
  unique h := by cases h

lemma Accounts.used_eq_base (h : Accounts base own used) (hown : ∀ s, own s = none) (p : P) :
    used p ↔ base p := by
  simp [h.used_iff p, hown]

lemma Accounts.used_of_own (h : Accounts base own used) {s : S} {p : P} (hs : own s = some p) :
    used p := (h.used_iff p).2 (Or.inr ⟨s, hs⟩)

lemma Accounts.congr (h : Accounts base own used) (hown : ∀ s, own' s = own s)
    (hused : ∀ p, used' p ↔ used p) : Accounts base own' used' := by
  obtain rfl : own' = own := funext hown
  obtain rfl : used' = used := funext fun p => propext (hused p)
  exact h

lemma Accounts.of_own (hused : ∀ {s p}, own s = some p → used p)
    (hunique : ∀ {s s' p}, own s = some p → own s' = some p → s = s') :
    Accounts (fun p => used p ∧ ∀ s, own s ≠ some p) own used where
  used_iff p := by
    constructor
    · intro hp
      by_cases hown : ∃ s, own s = some p
      · exact Or.inr hown
      · exact Or.inl ⟨hp, not_exists.1 hown⟩
    · rintro (⟨hp, -⟩ | ⟨s, hs⟩)
      · exact hp
      · exact hused hs
  fresh hs hp := hp.2 _ hs
  unique := hunique

lemma Accounts.takeOther (h : Accounts base own used) {base' : P → Prop} {p : P}
    (hfree : ¬ used p) (hbase : ∀ q, base' q ↔ q = p ∨ base q)
    (hused : ∀ q, used' q ↔ q = p ∨ used q) : Accounts base' own used' where
  used_iff q := by rw [hused, hbase, h.used_iff, or_assoc]
  fresh {s q} hq hbad := by
    rcases (hbase q).1 hbad with rfl | hbad
    · exact hfree (h.used_of_own hq)
    · exact h.fresh hq hbad
  unique := h.unique

variable [DecidableEq S]

/-- An empty slot takes a resource that was not used. -/
theorem Accounts.take (h : Accounts base own used) {s : S} {p : P} (hs : own s = none)
    (hfree : ¬ used p) (hown : own' = update own s (some p))
    (hused : ∀ q, used' q ↔ q = p ∨ used q) : Accounts base own' used' := by
  subst hown
  have hnot : ∀ s', own s' ≠ some p := fun s' hs' => hfree (h.used_of_own hs')
  refine ⟨fun q => ?_, fun {s' q} hq => ?_, fun {s₁ s₂ q} h₁ h₂ => ?_⟩
  · rw [hused, h.used_iff]
    constructor
    · rintro (rfl | hbase | ⟨s', hs'⟩)
      · exact Or.inr ⟨s, update_self ..⟩
      · exact Or.inl hbase
      · have hne : s' ≠ s := by
          rintro rfl
          simp [hs] at hs'
        exact Or.inr ⟨s', by rw [update_of_ne hne, hs']⟩
    · rintro (hbase | ⟨s', hs'⟩)
      · exact Or.inr (Or.inl hbase)
      · rcases eq_or_ne s' s with rfl | hne
        · rw [update_self, Option.some.injEq] at hs'
          exact Or.inl hs'.symm
        · rw [update_of_ne hne] at hs'
          exact Or.inr (Or.inr ⟨s', hs'⟩)
  · rcases eq_or_ne s' s with rfl | hne
    · rw [update_self, Option.some.injEq] at hq
      exact fun hbase => hfree ((h.used_iff p).2 (Or.inl (hq ▸ hbase)))
    · rw [update_of_ne hne] at hq
      exact h.fresh hq
  · by_cases hs₁ : s₁ = s <;> by_cases hs₂ : s₂ = s
    · rw [hs₁, hs₂]
    · rw [hs₁, update_self, Option.some.injEq] at h₁
      rw [update_of_ne hs₂] at h₂
      exact absurd (h₁ ▸ h₂) (hnot s₂)
    · rw [hs₂, update_self, Option.some.injEq] at h₂
      rw [update_of_ne hs₁] at h₁
      exact absurd (h₂ ▸ h₁) (hnot s₁)
    · rw [update_of_ne hs₁] at h₁
      rw [update_of_ne hs₂] at h₂
      exact h.unique h₁ h₂

/-- A slot gives its resource back. -/
theorem Accounts.drop (h : Accounts base own used) {s : S} {p : P} (hs : own s = some p)
    (hown : own' = update own s none)
    (hused : ∀ q, used' q ↔ q ≠ p ∧ used q) : Accounts base own' used' := by
  subst hown
  have hback : ∀ {s' q}, update own s none s' = some q → s' ≠ s ∧ own s' = some q := by
    intro s' q hq
    rcases eq_or_ne s' s with rfl | hne
    · simp at hq
    · exact ⟨hne, by rwa [update_of_ne hne] at hq⟩
  refine ⟨fun q => ?_, fun hq => h.fresh (hback hq).2,
    fun h₁ h₂ => h.unique (hback h₁).2 (hback h₂).2⟩
  rw [hused, h.used_iff]
  constructor
  · rintro ⟨hne, hbase | ⟨s', hs'⟩⟩
    · exact Or.inl hbase
    · have hs'ne : s' ≠ s := by
        rintro rfl
        exact hne (Option.some.inj (hs'.symm.trans hs))
      exact Or.inr ⟨s', by rw [update_of_ne hs'ne, hs']⟩
  · rintro (hbase | ⟨s', hs'⟩)
    · exact ⟨fun hq => h.fresh hs (hq ▸ hbase), Or.inl hbase⟩
    · obtain ⟨hne, hs'⟩ := hback hs'
      exact ⟨fun hq => hne (h.unique hs' (hq ▸ hs)), Or.inr ⟨s', hs'⟩⟩

end Ownership
