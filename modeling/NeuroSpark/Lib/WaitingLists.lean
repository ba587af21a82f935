import Mathlib.Data.List.Nodup
import Mathlib.Logic.Function.Basic
import Mathlib.Tactic.Common

/-!
# Who waits in which list

Agents of type `T` wait in lists, one for each `q : Q`. An entry of a list is the number `e t` of an
agent. The lists are in order when their entries are the agents that wait, each once and in a list
that suits it. Three changes keep them in order: none at all, an agent that did not wait joins a
list, and the first agent of a list stops waiting.
-/

namespace Waiting

variable {T Q ι : Type*} {e : T → ι}

/-- The entries of the lists are the agents that wait. -/
structure Enlisted (e : T → ι) (queue : Q → List ι) (waits : T → Prop) (suits : T → Q → Prop) :
    Prop where
  entered : ∀ {q i}, i ∈ queue q → ∃ t, i = e t ∧ waits t ∧ suits t q
  nodup : ∀ q, (queue q).Nodup
  unique : ∀ {q q' i}, i ∈ queue q → i ∈ queue q' → q = q'
  listed : ∀ {t}, waits t → ∃ q, e t ∈ queue q

variable {queue queue' : Q → List ι} {waits waits' : T → Prop} {suits suits' : T → Q → Prop}

lemma Enlisted.empty (hqueue : ∀ q, queue q = []) (hwaits : ∀ t, ¬ waits t) :
    Enlisted e queue waits suits where
  entered h := by simp [hqueue] at h
  nodup q := by simp [hqueue]
  unique h := by simp [hqueue] at h
  listed h := absurd h (hwaits _)

lemma Enlisted.congr (h : Enlisted e queue waits suits) (hqueue : ∀ q, queue' q = queue q)
    (hwaits : ∀ t, waits' t ↔ waits t) (hsuits : ∀ t q, waits t → suits t q → suits' t q) :
    Enlisted e queue' waits' suits' where
  entered hi := by
    obtain ⟨t, rfl, hw, hs⟩ := h.entered (hqueue _ ▸ hi)
    exact ⟨t, rfl, (hwaits t).2 hw, hsuits t _ hw hs⟩
  nodup q := hqueue q ▸ h.nodup q
  unique hi hi' := h.unique (hqueue _ ▸ hi) (hqueue _ ▸ hi')
  listed hw := by
    obtain ⟨q, hq⟩ := h.listed ((hwaits _).1 hw)
    exact ⟨q, (hqueue q).symm ▸ hq⟩

lemma Enlisted.not_mem (h : Enlisted e queue waits suits) (he : Function.Injective e) {t : T}
    (ht : ¬ waits t) (q : Q) : e t ∉ queue q := by
  intro hmem
  obtain ⟨u, hu, hw, -⟩ := h.entered hmem
  exact ht (he hu ▸ hw)

/-- An agent joins a list. -/
theorem Enlisted.push (h : Enlisted e queue waits suits) (he : Function.Injective e) {t : T} {q : Q}
    (ht : ¬ waits t) (hq : queue' q = queue q ++ [e t]) (hother : ∀ q', q' ≠ q → queue' q' = queue q')
    (hwaits : ∀ u, waits' u ↔ waits u ∨ u = t)
    (hsuits : ∀ u q', waits u → suits u q' → suits' u q') (hnew : suits' t q) :
    Enlisted e queue' waits' suits' := by
  have hmem : ∀ {q' i}, i ∈ queue' q' → i ∈ queue q' ∨ q' = q ∧ i = e t := by
    intro q' i hi
    by_cases hqq : q' = q
    · subst hqq
      rw [hq, List.mem_append, List.mem_singleton] at hi
      exact hi.imp_right fun hi => ⟨rfl, hi⟩
    · exact Or.inl (hother q' hqq ▸ hi)
  refine ⟨fun hi => ?_, fun q' => ?_, fun {q' q'' i} hi hi' => ?_, fun {u} hu => ?_⟩
  · rcases hmem hi with hold | ⟨rfl, rfl⟩
    · obtain ⟨u, rfl, hw, hs⟩ := h.entered hold
      exact ⟨u, rfl, (hwaits u).2 (Or.inl hw), hsuits u _ hw hs⟩
    · exact ⟨t, rfl, (hwaits t).2 (Or.inr rfl), hnew⟩
  · by_cases hqq : q' = q
    · subst hqq
      rw [hq]
      exact (h.nodup q').append (List.nodup_singleton _) (by simpa using h.not_mem he ht q')
    · exact hother q' hqq ▸ h.nodup q'
  · rcases hmem hi with hold | ⟨rfl, rfl⟩
    · rcases hmem hi' with hold' | ⟨-, rfl⟩
      · exact h.unique hold hold'
      · exact absurd hold (h.not_mem he ht q')
    · rcases hmem hi' with hold' | ⟨rfl, -⟩
      · exact absurd hold' (h.not_mem he ht q'')
      · rfl
  · rcases (hwaits u).1 hu with hw | rfl
    · obtain ⟨q', hq'⟩ := h.listed hw
      refine ⟨q', ?_⟩
      by_cases hqq : q' = q
      · subst hqq
        exact hq ▸ List.mem_append_left _ hq'
      · exact (hother q' hqq).symm ▸ hq'
    · exact ⟨q, by simp [hq]⟩

/-- The first agent of a list stops waiting. -/
theorem Enlisted.pop (h : Enlisted e queue waits suits) (he : Function.Injective e) {t : T} {q : Q}
    (hq : queue q = e t :: queue' q) (hother : ∀ q', q' ≠ q → queue' q' = queue q')
    (hwaits : ∀ u, waits' u ↔ waits u ∧ u ≠ t)
    (hsuits : ∀ u q', waits u → suits u q' → suits' u q') :
    Enlisted e queue' waits' suits' := by
  have hnodup : e t ∉ queue' q ∧ (queue' q).Nodup := by
    have hcons := h.nodup q
    rwa [hq, List.nodup_cons] at hcons
  have hmem : ∀ {q' i}, i ∈ queue' q' → i ∈ queue q' ∧ i ≠ e t := by
    intro q' i hi
    by_cases hqq : q' = q
    · subst hqq
      exact ⟨by rw [hq]; exact List.mem_cons_of_mem _ hi, fun heq => hnodup.1 (heq ▸ hi)⟩
    · rw [hother q' hqq] at hi
      refine ⟨hi, fun heq => hqq (h.unique hi ?_)⟩
      rw [hq, heq]
      exact List.mem_cons_self
  refine ⟨fun hi => ?_, fun q' => ?_, fun hi hi' => h.unique (hmem hi).1 (hmem hi').1,
    fun {u} hu => ?_⟩
  · obtain ⟨hold, hne⟩ := hmem hi
    obtain ⟨u, rfl, hw, hs⟩ := h.entered hold
    exact ⟨u, rfl, (hwaits u).2 ⟨hw, fun heq => hne (heq ▸ rfl)⟩, hsuits u _ hw hs⟩
  · by_cases hqq : q' = q
    · exact hqq ▸ hnodup.2
    · exact hother q' hqq ▸ h.nodup q'
  · obtain ⟨hw, hne⟩ := (hwaits u).1 hu
    obtain ⟨q', hq'⟩ := h.listed hw
    refine ⟨q', ?_⟩
    by_cases hqq : q' = q
    · subst hqq
      rw [hq] at hq'
      exact (List.mem_cons.1 hq').resolve_left fun heq => hne (he heq)
    · exact (hother q' hqq).symm ▸ hq'

end Waiting
