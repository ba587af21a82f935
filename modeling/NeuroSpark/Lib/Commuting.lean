import Mathlib.Data.List.Basic
import Mathlib.Data.List.Sort
import Mathlib.Tactic.Common

/-!
# Reordering operations that commute

A scheduler that executes a list of operations in another order does no harm when the operations it
exchanges commute. Here every operation has a *key*, and the reordering sorts the operations by their
keys and keeps those with one key in their order.
-/

namespace Commuting

variable {S A K : Type*}

lemma foldl_move_front {f : S → A → S} {I : S → Prop} (hI : ∀ s a, I s → I (f s a)) {a : A}
    {p : List A} (hcomm : ∀ b ∈ p, ∀ s, I s → f (f s b) a = f (f s a) b) {s : S} (hs : I s) :
    f (p.foldl f s) a = p.foldl f (f s a) := by
  induction p generalizing s with
  | nil => rfl
  | cons b p ih =>
    have hp : ∀ b ∈ p, ∀ s, I s → f (f s b) a = f (f s a) b := by
      intro b hb
      exact hcomm b (List.mem_cons_of_mem _ hb)
    rw [List.foldl_cons, List.foldl_cons, ih hp (hI s b hs), hcomm b List.mem_cons_self s hs]

/-- `a` comes before `b` in a stable order by `key`: its key is smaller, or the keys are the same
and it was first. -/
def Before [LT K] [LT A] (key : A → K) (a b : A) : Prop := key a < key b ∨ key a = key b ∧ a < b

variable [Preorder A] [Preorder K] {key : A → K}

/-- A stable order by keys has the effect of the order of the operations, when those that it
exchanges commute on the states of `I`: the later one has the smaller key. -/
theorem foldl_eq_of_stable {f : S → A → S} {I : S → Prop} (hI : ∀ s a, I s → I (f s a))
    {l l' : List A} (hl' : l'.Pairwise (· < ·)) (hperm : l.Perm l') (hl : l.Pairwise (Before key))
    (hcomm : ∀ a ∈ l', ∀ b ∈ l', a < b → key b < key a → ∀ s, I s → f (f s b) a = f (f s a) b)
    {s : S} (hs : I s) : l.foldl f s = l'.foldl f s := by
  induction l' generalizing l s with
  | nil => rw [hperm.eq_nil]
  | cons a m ih =>
    obtain ⟨ham, hm⟩ := List.pairwise_cons.mp hl'
    obtain ⟨p, q, rfl⟩ := List.append_of_mem (hperm.mem_iff.mpr List.mem_cons_self)
    have hrest : (p ++ q).Perm m := (List.perm_middle.symm.trans hperm).cons_inv
    have hsub : (p ++ q).Sublist (p ++ a :: q) :=
      (List.Sublist.refl p).append (List.sublist_cons_self a q)
    have hfront : ∀ b ∈ p, ∀ s, I s → f (f s b) a = f (f s a) b := by
      intro b hb
      have hbm : b ∈ m := hrest.mem_iff.mp (List.mem_append_left q hb)
      have hab := ham b hbm
      -- what stands before the first operation has a smaller key
      rcases (List.pairwise_append.mp hl).2.2 b hb a List.mem_cons_self with hkey | ⟨-, hba⟩
      · exact hcomm a List.mem_cons_self b (List.mem_cons_of_mem a hbm) hab hkey
      · exact absurd (hab.trans hba) (lt_irrefl a)
    have htail := ih hm hrest (hl.sublist hsub)
      (fun b hb c hc => hcomm b (List.mem_cons_of_mem a hb) c (List.mem_cons_of_mem a hc)) (hI s a hs)
    rw [List.foldl_cons, ← htail, List.foldl_append, List.foldl_append, List.foldl_cons,
      foldl_move_front hI hfront hs]

end Commuting
