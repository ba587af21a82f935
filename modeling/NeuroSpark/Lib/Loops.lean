import Mathlib.Algebra.GroupWithZero.Nat
import Mathlib.Data.List.FinRange
import Mathlib.Order.Nat
import NeuroSpark.Lib.Machine

/-!
# Loops over a cursor

`for (x = first;; x = next(x)) { body(x); if (last(x)) break; }` with a body that may leave the
loop. The cursor of such a loop is often a machine word; when it runs through the values `addr n`,
…, `addr m` the loop is the one over the numbers from `n` to `m`, and invariants are stated on
these.
-/

namespace Loop

variable {S X E : Type*}

/-- The loop, for at most `fuel` rounds. -/
def untilLast (next : X → X) (last : X → Bool) (body : S → X → Except E S) :
    Nat → X → S → Except E S
  | 0, _, s => .ok s
  | fuel + 1, x, s =>
    match body s x with
    | .error e => .error e
    | .ok s => if last x then .ok s else untilLast next last body fuel (next x) s

/-- With fuel for all its rounds the loop visits the numbers from `n` to `m`. -/
theorem untilLast_eq_foldlM (next : X → X) (last : X → Bool) (body : S → X → Except E S)
    (addr : Nat → X) (fuel : Nat) {n m : Nat} (hle : n ≤ m) (hfuel : m - n < fuel)
    (hnext : ∀ i, n ≤ i → i < m → next (addr i) = addr (i + 1))
    (hbefore : ∀ i, n ≤ i → i < m → last (addr i) = false) (hlast : last (addr m) = true) (s : S) :
    untilLast next last body fuel (addr n) s =
      (List.range' n (m + 1 - n)).foldlM (fun s i => body s (addr i)) s := by
  induction fuel generalizing n s with
  | zero => omega
  | succ fuel ih =>
    have hcount : m + 1 - n = (m - n) + 1 := by omega
    rw [hcount, List.range'_succ, List.foldlM_cons, untilLast]
    cases hbody : body s (addr n) with
    | error e => rfl
    | ok s' =>
      rcases Nat.eq_or_lt_of_le hle with rfl | hlt
      · simp only [hlast, if_true, Nat.sub_self, List.range'_zero]
        rfl
      · have hrest : m - n = m + 1 - (n + 1) := by omega
        simp only [hbefore n le_rfl hlt, Bool.false_eq_true, if_false, hnext n le_rfl hlt, hrest]
        exact ih hlt (by omega) (fun i hi => hnext i (by omega)) (fun i hi => hbefore i (by omega)) s'

/-- A loop over the numbers from `n` on: `I i` holds before round `i`, and `Q` when the loop is
left. -/
theorem foldlM_range'_invariant {f : S → Nat → Except E S} {I : Nat → S → Prop} {Q : E → Prop}
    {n k : Nat} (hok : ∀ i s s', n ≤ i → i < n + k → I i s → f s i = .ok s' → I (i + 1) s')
    (herror : ∀ i s e, n ≤ i → i < n + k → I i s → f s i = .error e → Q e) {s : S} (hs : I n s) :
    (∀ s', (List.range' n k).foldlM f s = .ok s' → I (n + k) s') ∧
      ∀ e, (List.range' n k).foldlM f s = .error e → Q e := by
  induction k generalizing n s with
  | zero =>
    constructor
    · rintro s' ⟨⟩
      exact hs
    · rintro e ⟨⟩
  | succ k ih =>
    rw [List.range'_succ, List.foldlM_cons]
    cases hf : f s n with
    | error e =>
      constructor
      · rintro s' ⟨⟩
      · rintro e' ⟨⟩
        exact herror n s e le_rfl (by omega) hs hf
    | ok s' =>
      have hrest := ih (n := n + 1) (fun i s s' hi hlt => hok i s s' (by omega) (by omega))
        (fun i s e hi hlt => herror i s e (by omega) (by omega)) (hok n s s' le_rfl (by omega) hs hf)
      rwa [show n + 1 + k = n + (k + 1) by omega] at hrest

/-- A loop that only looks goes through when every round does. -/
theorem foldlM_range'_check {P : Nat → Prop} [DecidablePred P] {n k : Nat} {e : E} {s : S} :
    (List.range' n k).foldlM (fun s i => if P i then Except.ok s else Except.error e) s =
        Except.ok s ↔
      ∀ i, n ≤ i → i < n + k → P i := by
  induction k generalizing n with
  | zero => exact ⟨fun _ i hi hlt => absurd hlt (by omega), fun _ => rfl⟩
  | succ k ih =>
    rw [List.range'_succ, List.foldlM_cons]
    by_cases hn : P n
    · simp only [if_pos hn]
      refine Iff.trans ih ⟨fun h i hi hlt => ?_, fun h i hi hlt => h i (by omega) (by omega)⟩
      rcases Nat.eq_or_lt_of_le hi with rfl | hi
      · exact hn
      · exact h i hi (by omega)
    · simp only [if_neg hn]
      refine ⟨fun h => ?_, fun h => absurd (h n le_rfl (by omega)) hn⟩
      cases h

/-- A loop whose rounds take things from a supply, each a number that is known beforehand: it goes
through just when the supply lasts for all of them, and leaves what it did not take. -/
theorem foldlM_supply {A Y : Type*} (supply : S → List Y) (need : A → Nat) {f : S → A → Except E S}
    {I : List A → S → Prop} {Q : E → Prop}
    (hround : ∀ s a l, I (a :: l) s →
      (∃ s', f s a = .ok s' ∧ need a ≤ (supply s).length ∧
        supply s' = (supply s).drop (need a) ∧ I l s') ∨
      (supply s).length < need a ∧ ∃ e, f s a = .error e ∧ Q e)
    {s : S} {l : List A} (hs : I l s) :
    (∃ s', l.foldlM f s = .ok s' ∧ (l.map need).sum ≤ (supply s).length ∧
        supply s' = (supply s).drop (l.map need).sum ∧ I [] s') ∨
      (supply s).length < (l.map need).sum ∧ ∃ e, l.foldlM f s = .error e ∧ Q e := by
  induction l generalizing s with
  | nil => exact Or.inl ⟨s, rfl, Nat.zero_le _, rfl, hs⟩
  | cons a l ih =>
    rw [List.foldlM_cons, List.map_cons, List.sum_cons]
    rcases hround s a l hs with ⟨s₁, hf, hle, hrest, hs₁⟩ | ⟨hlt, e, hf, he⟩
    · rw [hf]
      have hlength : (supply s₁).length = (supply s).length - need a := by
        rw [hrest, List.length_drop]
      rcases ih hs₁ with ⟨s', hloop, hle', hrest', hs'⟩ | ⟨hlt, e, hloop, he⟩
      · refine Or.inl ⟨s', hloop, by omega, ?_, hs'⟩
        rw [hrest', hrest, List.drop_drop]
      · exact Or.inr ⟨by omega, e, hloop, he⟩
    · rw [hf]
      exact Or.inr ⟨by omega, e, rfl, he⟩

/-- A loop over the indices of an array, with rounds that may fail: when round `i` takes `I i` to
`I (i + 1)` none does. -/
theorem foldlM_finRange {n : Nat} {f : S → Fin n → Option S} {I : Nat → S → Prop}
    (hstep : ∀ (i : Fin n) s, I i s → ∃ s', f s i = some s' ∧ I (i + 1) s') {s : S} (hs : I 0 s) :
    ∃ s', (List.finRange n).foldlM f s = some s' ∧ I n s' := by
  induction n generalizing I s with
  | zero => exact ⟨s, rfl, hs⟩
  | succ n ih =>
    obtain ⟨s₁, h₁, hI⟩ := hstep 0 s hs
    obtain ⟨s', h, hI'⟩ := ih (f := fun s i => f s i.succ) (I := fun k => I (k + 1))
      (fun i => hstep i.succ) hI
    refine ⟨s', ?_, hI'⟩
    rw [List.finRange_succ, List.foldlM_cons, h₁, Option.bind_eq_bind, Option.bind_some,
      List.foldlM_map]
    exact h

/-- A loop whose rounds do not fail where an invariant holds. -/
theorem foldlM_total {A : Type*} {f : S → A → Option S} {I : S → Prop} {l : List A}
    (hstep : ∀ s, ∀ a ∈ l, I s → ∃ s', f s a = some s' ∧ I s') {s : S} (hs : I s) :
    ∃ s', l.foldlM f s = some s' ∧ I s' := by
  induction l generalizing s with
  | nil => exact ⟨s, rfl, hs⟩
  | cons a l ih =>
    obtain ⟨s₁, h₁, hI⟩ := hstep s a (List.mem_cons_self ..) hs
    obtain ⟨s', h, hI'⟩ := ih (fun s a ha => hstep s a (List.mem_cons_of_mem _ ha)) hI
    exact ⟨s', by rw [List.foldlM_cons, h₁]; exact h, hI'⟩

end Loop
