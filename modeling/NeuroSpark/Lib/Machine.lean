import Mathlib.Data.List.Basic
import Mathlib.Tactic.Common

/-!
# Machines, runs and refinement

A *machine* is a transition function `step : S → O → S × R`: it takes a state and an operation
and gives the next state together with the answer of the operation. A run feeds it a list of
operations. The two rules of this file are the ones every development over machines needs: an
invariant kept by each step holds after each run, and a simulation of each step makes all the
answers of a run agree.
-/

namespace Machine

variable {S A O R : Type*}

/-- The state reached by a list of operations. -/
def run (step : S → O → S × R) (s : S) : List O → S
  | [] => s
  | o :: os => run step (step s o).1 os

/-- The answers given along a run, in order. -/
def outputs (step : S → O → S × R) (s : S) : List O → List R
  | [] => []
  | o :: os => (step s o).2 :: outputs step (step s o).1 os

/-- Every operation of the run meets `ok` in the state in which it is called. -/
def Runs (ok : S → O → Prop) (step : S → O → S × R) (s : S) : List O → Prop
  | [] => True
  | o :: os => ok s o ∧ Runs ok step (step s o).1 os

@[simp] lemma run_nil (step : S → O → S × R) (s : S) : run step s [] = s := rfl

@[simp] lemma run_cons (step : S → O → S × R) (s : S) (o : O) (os : List O) :
    run step s (o :: os) = run step (step s o).1 os := rfl

@[simp] lemma outputs_nil (step : S → O → S × R) (s : S) : outputs step s [] = [] := rfl

@[simp] lemma outputs_cons (step : S → O → S × R) (s : S) (o : O) (os : List O) :
    outputs step s (o :: os) = (step s o).2 :: outputs step (step s o).1 os := rfl

@[simp] lemma runs_nil (ok : S → O → Prop) (step : S → O → S × R) (s : S) :
    Runs ok step s [] := trivial

@[simp] lemma runs_cons (ok : S → O → Prop) (step : S → O → S × R) (s : S) (o : O)
    (os : List O) : Runs ok step s (o :: os) ↔ ok s o ∧ Runs ok step (step s o).1 os := Iff.rfl

/-- Whether a run is allowed can be computed when every step can be checked. -/
instance decidableRuns (ok : S → O → Prop) [∀ s o, Decidable (ok s o)] (step : S → O → S × R)
    (s : S) : ∀ os, Decidable (Runs ok step s os)
  | [] => isTrue trivial
  | _ :: os => @instDecidableAnd _ _ _ (decidableRuns ok step _ os)

lemma run_append (step : S → O → S × R) (s : S) (os os' : List O) :
    run step s (os ++ os') = run step (run step s os) os' := by
  induction os generalizing s with
  | nil => rfl
  | cons o os ih => exact ih _

lemma runs_append (ok : S → O → Prop) (step : S → O → S × R) (s : S) (os os' : List O) :
    Runs ok step s (os ++ os') ↔ Runs ok step s os ∧ Runs ok step (run step s os) os' := by
  induction os generalizing s with
  | nil => simp
  | cons o os ih => simp only [List.cons_append, runs_cons, run_cons, ih, and_assoc]

lemma Runs.mono {ok ok' : S → O → Prop} {step : S → O → S × R} (h : ∀ s o, ok s o → ok' s o)
    {s : S} {os : List O} (hr : Runs ok step s os) : Runs ok' step s os := by
  induction os generalizing s with
  | nil => trivial
  | cons o os ih => exact ⟨h s o hr.1, ih hr.2⟩

lemma Runs.and {ok ok' : S → O → Prop} {step : S → O → S × R} {s : S} {os : List O}
    (h : Runs ok step s os) (h' : Runs ok' step s os) :
    Runs (fun s o => ok s o ∧ ok' s o) step s os := by
  induction os generalizing s with
  | nil => trivial
  | cons o os ih => exact ⟨⟨h.1, h'.1⟩, ih h.2 h'.2⟩

lemma Runs.of_forall {ok : S → O → Prop} {step : S → O → S × R} (h : ∀ s o, ok s o) (s : S)
    (os : List O) : Runs ok step s os := by
  induction os generalizing s with
  | nil => trivial
  | cons o os ih => exact ⟨h s o, ih _⟩

lemma Runs.of_forall_mem {ok : O → Prop} {step : S → O → S × R} {s : S} {os : List O}
    (h : ∀ o ∈ os, ok o) : Runs (fun _ o => ok o) step s os := by
  induction os generalizing s with
  | nil => trivial
  | cons o os ih =>
    exact ⟨h o (List.mem_cons_self ..), ih fun o' ho' => h o' (List.mem_cons_of_mem _ ho')⟩

/-- An invariant kept by every step that meets `ok` holds after every run of such steps. -/
theorem run_invariant {ok : S → O → Prop} {step : S → O → S × R} {I : S → Prop}
    (hstep : ∀ s o, I s → ok s o → I (step s o).1) {s : S} (hs : I s) {os : List O}
    (hr : Runs ok step s os) : I (run step s os) := by
  induction os generalizing s with
  | nil => exact hs
  | cons o os ih => exact ih (hstep s o hs hr.1) hr.2

/-- The unconditional case of `run_invariant`. -/
theorem run_invariant' {step : S → O → S × R} {I : S → Prop}
    (hstep : ∀ s o, I s → I (step s o).1) {s : S} (hs : I s) (os : List O) :
    I (run step s os) := by
  have hr : Runs (fun _ _ => True) step s os := Runs.of_forall (fun _ _ => trivial) s os
  exact run_invariant (fun s o hs _ => hstep s o hs) hs hr

/-- In the states of an invariant every step that meets `ok` is good. -/
theorem runs_of_invariant {ok good : S → O → Prop} {step : S → O → S × R} {I : S → Prop}
    (hstep : ∀ s o, I s → ok s o → I (step s o).1) (hgood : ∀ s o, I s → ok s o → good s o)
    {s : S} (hs : I s) {os : List O} (hr : Runs ok step s os) : Runs good step s os := by
  induction os generalizing s with
  | nil => trivial
  | cons o os ih => exact ⟨hgood s o hs hr.1, ih (hstep s o hs hr.1) hr.2⟩

/-- When the steps that keep `I` are exactly those after which `P` holds, `P` holds all along a run
if and only if all its steps meet `ok`. -/
theorem runs_iff_forall_prefix {ok : S → O → Prop} {step : S → O → S × R} {I P : S → Prop}
    (hstep : ∀ s o, I s → ok s o → I (step s o).1) (hI : ∀ s, I s → P s)
    (hexact : ∀ s o, I s → P (step s o).1 → ok s o) {s : S} (hs : I s) (os : List O) :
    (∀ pre, pre <+: os → P (run step s pre)) ↔ Runs ok step s os := by
  induction os generalizing s with
  | nil =>
    refine ⟨fun _ => trivial, fun _ pre hpre => ?_⟩
    rw [List.prefix_nil.1 hpre]
    exact hI s hs
  | cons o os ih =>
    constructor
    · intro h
      have hok := hexact s o hs (h [o] ⟨os, rfl⟩)
      refine ⟨hok, (ih (hstep s o hs hok)).1 fun pre hpre => ?_⟩
      exact h (o :: pre) (List.cons_prefix_cons.2 ⟨rfl, hpre⟩)
    · rintro ⟨hok, hrest⟩ pre hpre
      cases pre with
      | nil => exact hI s hs
      | cons o' pre =>
        obtain ⟨rfl, htail⟩ := List.cons_prefix_cons.1 hpre
        exact (ih (hstep s _ hs hok)).2 hrest pre htail

/-- When the steps that are good are, in the states of an invariant, those that meet `ok`, and these
keep the invariant, the runs of good steps are those of steps that meet `ok`. -/
theorem runs_congr {ok good : S → O → Prop} {step : S → O → S × R} {I : S → Prop}
    (hstep : ∀ s o, I s → ok s o → I (step s o).1) (hexact : ∀ s o, I s → (good s o ↔ ok s o))
    {s : S} (hs : I s) (os : List O) : Runs good step s os ↔ Runs ok step s os := by
  induction os generalizing s with
  | nil => exact Iff.rfl
  | cons o os ih =>
    rw [runs_cons, runs_cons, hexact s o hs]
    exact and_congr_right fun hok => ih (hstep s o hs hok)

/-- Two machines whose states stay related answer alike. -/
theorem outputs_eq_of_related {A : Type*} {ok : S → O → Prop} {step : S → O → S × R}
    {step' : A → O → A × R} {rel : S → A → Prop}
    (hstep : ∀ s a o, rel s a → ok s o →
      rel (step s o).1 (step' a o).1 ∧ (step s o).2 = (step' a o).2)
    {s : S} {a : A} (hs : rel s a) {os : List O} (hr : Runs ok step s os) :
    rel (run step s os) (run step' a os) ∧ outputs step s os = outputs step' a os := by
  induction os generalizing s a with
  | nil => exact ⟨hs, rfl⟩
  | cons o os ih =>
    obtain ⟨hrel, hout⟩ := hstep s a o hs hr.1
    obtain ⟨hrel', houts⟩ := ih hrel hr.2
    exact ⟨hrel', by rw [outputs_cons, outputs_cons, hout, houts]⟩

/-- What the steps of a run contribute to a log, in order. -/
def log (f : S → O → List A) (step : S → O → S × R) (s : S) : List O → List A
  | [] => []
  | o :: os => f s o ++ log f step (step s o).1 os

@[simp] lemma log_nil (f : S → O → List A) (step : S → O → S × R) (s : S) :
    log f step s [] = [] := rfl

@[simp] lemma log_cons (f : S → O → List A) (step : S → O → S × R) (s : S) (o : O) (os : List O) :
    log f step s (o :: os) = f s o ++ log f step (step s o).1 os := rfl

/-- A state with contents, to which each step adds at the end and from which it takes at the start:
what was there and what was added over a run is what was taken and what is left, in this order. -/
theorem log_conserved {ok : S → O → Prop} {step : S → O → S × R} {I : S → Prop}
    {contents : S → List A} {added taken : S → O → List A}
    (hinv : ∀ s o, I s → ok s o → I (step s o).1)
    (hstep : ∀ s o, I s → ok s o →
      contents s ++ added s o = taken s o ++ contents (step s o).1)
    {s : S} (hs : I s) {os : List O} (hr : Runs ok step s os) :
    contents s ++ log added step s os = log taken step s os ++ contents (run step s os) := by
  induction os generalizing s with
  | nil => simp
  | cons o os ih =>
    rw [log_cons, log_cons, run_cons, ← List.append_assoc, hstep s o hs hr.1, List.append_assoc,
      ih (hinv s o hs hr.1) hr.2, List.append_assoc]

/-- Logs whose parts correspond, step by step. -/
theorem log_map {B : Type*} {ok : S → O → Prop} {step : S → O → S × R} {I : S → Prop}
    {f : S → O → List A} {g : S → O → List B} {h : A → B}
    (hinv : ∀ s o, I s → ok s o → I (step s o).1)
    (hstep : ∀ s o, I s → ok s o → g s o = (f s o).map h)
    {s : S} (hs : I s) {os : List O} (hr : Runs ok step s os) :
    log g step s os = (log f step s os).map h := by
  induction os generalizing s with
  | nil => rfl
  | cons o os ih =>
    rw [log_cons, log_cons, hstep s o hs hr.1, ih (hinv s o hs hr.1) hr.2, List.map_append]

/-- A loop whose body goes on with a state or leaves with one. `I l` holds when `l` is still to be
done, `E` when the loop is left. -/
theorem foldlM_invariant {f : S → A → Except S S} {I : List A → S → Prop} {E : S → Prop}
    (hok : ∀ s a l s', I (a :: l) s → f s a = .ok s' → I l s')
    (herror : ∀ s a l s', I (a :: l) s → f s a = .error s' → E s') {s : S} {l : List A}
    (hs : I l s) :
    (∀ s', l.foldlM f s = .ok s' → I [] s') ∧ ∀ s', l.foldlM f s = .error s' → E s' := by
  induction l generalizing s with
  | nil =>
    constructor
    · rintro s' ⟨⟩
      exact hs
    · rintro s' ⟨⟩
  | cons a l ih =>
    rw [List.foldlM_cons]
    cases hf : f s a with
    | error s₁ =>
      constructor
      · rintro s' ⟨⟩
      · rintro s' ⟨⟩
        exact herror s a l s₁ hs hf
    | ok s₁ => exact ih (hok s a l s₁ hs hf)

/-- `view` is a simulation of `step` by `astep` on the states of `I`, for steps that meet `ok`:
the abstract machine makes the same move and gives the same answer. -/
structure Refines (ok : S → O → Prop) (step : S → O → S × R) (I : S → Prop)
    (view : S → A) (astep : A → O → A × R) : Prop where
  inv : ∀ s o, I s → ok s o → I (step s o).1
  state : ∀ s o, I s → ok s o → view (step s o).1 = (astep (view s) o).1
  output : ∀ s o, I s → ok s o → (step s o).2 = (astep (view s) o).2

variable {ok : S → O → Prop} {step : S → O → S × R} {I : S → Prop} {view : S → A}
  {astep : A → O → A × R}

lemma Refines.run_inv (h : Refines ok step I view astep) {s : S} (hs : I s) {os : List O}
    (hr : Runs ok step s os) : I (run step s os) :=
  run_invariant h.inv hs hr

/-- A run of the machine is, through the view, a run of the abstract one. -/
theorem Refines.run_view (h : Refines ok step I view astep) {s : S} (hs : I s) {os : List O}
    (hr : Runs ok step s os) : view (run step s os) = run astep (view s) os := by
  induction os generalizing s with
  | nil => rfl
  | cons o os ih =>
    rw [run_cons, run_cons, ih (h.inv s o hs hr.1) hr.2, h.state s o hs hr.1]

/-- Along a run every answer is the answer of the abstract machine. -/
theorem Refines.outputs_eq (h : Refines ok step I view astep) {s : S} (hs : I s) {os : List O}
    (hr : Runs ok step s os) : outputs step s os = outputs astep (view s) os := by
  induction os generalizing s with
  | nil => rfl
  | cons o os ih =>
    rw [outputs_cons, outputs_cons, ih (h.inv s o hs hr.1) hr.2, h.state s o hs hr.1,
      h.output s o hs hr.1]

end Machine
