import Mathlib.Logic.Basic
import Mathlib.Tactic.Common

/-!
# Computations that keep a log

A computation goes through events, which it writes to a log, and gives a result or stops. The log
stays when it stops. Two predicates on events that hold of a log together, or both fail of it, can
be compared along the computation.
-/

/-- The events of a computation, the first one first, and what it gives or stops with. -/
structure Logged (L ε α : Type*) where
  log : List L
  result : Except ε α

namespace Logged

variable {L ε α β σ : Type}

instance : Monad (Logged L ε) where
  pure a := ⟨[], .ok a⟩
  bind x f :=
    match x.result with
    | .error e => ⟨x.log, .error e⟩
    | .ok a => ⟨x.log ++ (f a).log, (f a).result⟩

def tell (e : L) : Logged L ε Unit := ⟨[e], .ok ()⟩

def stop (e : ε) : Logged L ε α := ⟨[], .error e⟩

/-- A computation is looked at from outside, also when it stops. -/
def attempt (x : Logged L ε α) : Logged L ε (Except ε α) := ⟨x.log, .ok x.result⟩

@[simp] lemma log_pure (a : α) : (pure a : Logged L ε α).log = [] := rfl
@[simp] lemma result_pure (a : α) : (pure a : Logged L ε α).result = .ok a := rfl
@[simp] lemma log_stop (e : ε) : (stop e : Logged L ε α).log = [] := rfl
@[simp] lemma result_stop (e : ε) : (stop e : Logged L ε α).result = .error e := rfl
@[simp] lemma log_tell (e : L) : (tell e : Logged L ε Unit).log = [e] := rfl
@[simp] lemma result_tell (e : L) : (tell e : Logged L ε Unit).result = .ok () := rfl
@[simp] lemma log_attempt (x : Logged L ε α) : x.attempt.log = x.log := rfl
@[simp] lemma result_attempt (x : Logged L ε α) : x.attempt.result = .ok x.result := rfl

lemma bind_of_ok {x : Logged L ε α} {a : α} (h : x.result = .ok a) (f : α → Logged L ε β) :
    (x >>= f).log = x.log ++ (f a).log ∧ (x >>= f).result = (f a).result := by
  obtain ⟨log, result⟩ := x
  obtain rfl : result = .ok a := h
  exact ⟨rfl, rfl⟩

lemma bind_of_error {x : Logged L ε α} {e : ε} (h : x.result = .error e) (f : α → Logged L ε β) :
    (x >>= f).log = x.log ∧ (x >>= f).result = .error e := by
  obtain ⟨log, result⟩ := x
  obtain rfl : result = .error e := h
  exact ⟨rfl, rfl⟩

lemma result_bind_ok {x : Logged L ε α} {a : α} (h : x.result = .ok a) {f : α → Logged L ε β} :
    (x >>= f).result = (f a).result := (bind_of_ok h f).2

@[simp] lemma tell_bind (e : L) (f : Unit → Logged L ε β) :
    (tell e >>= f).log = e :: (f ()).log ∧ (tell e >>= f).result = (f ()).result := ⟨rfl, rfl⟩

lemma result_bind (x : Logged L ε α) (f : α → Logged L ε β) :
    (x >>= f).result = x.result >>= fun a => (f a).result := by
  cases h : x.result with
  | error e => exact (bind_of_error h f).2
  | ok a => exact (bind_of_ok h f).2

lemma of_result_bind {x : Logged L ε α} {f : α → Logged L ε β} {b : β}
    (h : (x >>= f).result = .ok b) : ∃ a, x.result = .ok a ∧ (f a).result = .ok b := by
  cases hx : x.result with
  | error e =>
    rw [(bind_of_error hx f).2] at h
    cases h
  | ok a => exact ⟨a, rfl, (bind_of_ok hx f).2.symm.trans h⟩

lemma result_foldlM (f : σ → α → Logged L ε σ) (l : List α) (s : σ) :
    (l.foldlM f s).result = l.foldlM (fun s a => (f s a).result) s := by
  induction l generalizing s with
  | nil => rfl
  | cons a l ih =>
    rw [List.foldlM_cons, List.foldlM_cons, result_bind]
    exact congrArg (_ >>= ·) (funext ih)

lemma result_foldlM_ok {f : σ → α → Logged L ε σ} {g : σ → α → σ}
    (h : ∀ s a, (f s a).result = .ok (g s a)) (l : List α) (s : σ) :
    (l.foldlM f s).result = .ok (l.foldl g s) := by
  induction l generalizing s with
  | nil => rfl
  | cons a l ih =>
    rw [List.foldlM_cons, List.foldl_cons, result_bind_ok (h s a)]
    exact ih _

lemma foldlM_ok_invariant {f : σ → α → Logged L ε σ} {I : σ → Prop} {l : List α}
    (h : ∀ s, ∀ a ∈ l, I s → ∃ s', (f s a).result = .ok s' ∧ I s') {s : σ} (hs : I s) :
    ∃ s', (l.foldlM f s).result = .ok s' ∧ I s' := by
  induction l generalizing s with
  | nil => exact ⟨s, rfl, hs⟩
  | cons a l ih =>
    obtain ⟨s₁, hres, hs₁⟩ := h s a List.mem_cons_self hs
    rw [List.foldlM_cons, result_bind_ok hres]
    exact ih (fun s b hb => h s b (List.mem_cons_of_mem a hb)) hs₁

lemma mem_log_bind {x : Logged L ε α} {e : L} (h : e ∈ x.log) (f : α → Logged L ε β) :
    e ∈ (x >>= f).log := by
  cases hx : x.result with
  | error e' => rwa [(bind_of_error hx f).1]
  | ok a =>
    rw [(bind_of_ok hx f).1]
    exact List.mem_append_left _ h

section

variable {P Q : L → Prop}

/-- The events all satisfy `P` just when they all satisfy `Q`. -/
def Agrees (P Q : L → Prop) (x : Logged L ε α) : Prop := (∀ e ∈ x.log, P e) ↔ ∀ e ∈ x.log, Q e

lemma Agrees.of_log_nil {x : Logged L ε α} (h : x.log = []) : x.Agrees P Q := by
  simp [Agrees, h]

lemma Agrees.pure (a : α) : (pure a : Logged L ε α).Agrees P Q := .of_log_nil rfl

lemma Agrees.stop (e : ε) : (stop e : Logged L ε α).Agrees P Q := .of_log_nil rfl

lemma Agrees.tell {e : L} (h : P e ↔ Q e) : (tell e : Logged L ε Unit).Agrees P Q := by
  simpa [Agrees] using h

lemma Agrees.bind {x : Logged L ε α} {f : α → Logged L ε β} (hx : x.Agrees P Q)
    (hf : ∀ a, x.result = .ok a → (f a).Agrees P Q) : (x >>= f).Agrees P Q := by
  cases h : x.result with
  | error e => rwa [Agrees, (bind_of_error h f).1]
  | ok a =>
    rw [Agrees, (bind_of_ok h f).1, List.forall_mem_append, List.forall_mem_append]
    exact and_congr hx (hf a h)

lemma Agrees.announced {e : L} {f : Unit → Logged L ε β} (he : P e) (hf : Q e → (f ()).Agrees P Q)
    (hnot : ¬ Q e → ∃ e' ∈ (f ()).log, ¬ P e') : (Logged.tell e >>= f).Agrees P Q := by
  rw [Agrees, (tell_bind e f).1, List.forall_mem_cons, List.forall_mem_cons, and_iff_right he]
  by_cases hq : Q e
  · rw [and_iff_right hq]
    exact hf hq
  · obtain ⟨e', hmem, hp⟩ := hnot hq
    exact iff_of_false (fun h => hp (h e' hmem)) fun h => hq h.1

lemma Agrees.foldlM {f : σ → α → Logged L ε σ} {I : σ → Prop} {l : List α}
    (hround : ∀ s, ∀ a ∈ l, I s → (f s a).Agrees P Q ∧ ∀ s', (f s a).result = .ok s' → I s') {s : σ}
    (hs : I s) : (l.foldlM f s).Agrees P Q ∧ ∀ s', (l.foldlM f s).result = .ok s' → I s' := by
  induction l generalizing s with
  | nil =>
    refine ⟨.pure s, ?_⟩
    rintro s' ⟨⟩
    exact hs
  | cons a l ih =>
    rw [List.foldlM_cons]
    obtain ⟨hfirst, hkeeps⟩ := hround s a List.mem_cons_self hs
    have hrest := fun s' h =>
      ih (fun s a ha => hround s a (List.mem_cons_of_mem _ ha)) (hkeeps s' h)
    refine ⟨hfirst.bind fun s' h => (hrest s' h).1, fun s' h => ?_⟩
    obtain ⟨s₁, h₁, h⟩ := of_result_bind h
    exact (hrest s₁ h₁).2 s' h

lemma Agrees.forM {f : α → Logged L ε PUnit} {l : List α}
    (hround : ∀ a ∈ l, (f a).Agrees P Q) : (l.forM f).Agrees P Q := by
  induction l with
  | nil => exact .pure _
  | cons a l ih =>
    rw [List.forM_eq_forM, List.forM_cons]
    exact (hround a List.mem_cons_self).bind fun _ _ =>
      ih fun a ha => hround a (List.mem_cons_of_mem _ ha)

end

end Logged
