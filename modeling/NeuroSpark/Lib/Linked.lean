import Mathlib.Data.List.Basic
import Mathlib.Logic.Function.Basic
import Mathlib.Tactic.Common

/-!
# Linked lists

`next` gives the link of every cell and `null` ends a list. What a list that is linked this way
keeps are its cells in order; a change of the links of other cells does not concern it, a cell is
pushed by linking it to the head and popped by following its link.
-/

namespace Linked

variable {A : Type*} {next next' : A → A} {null head : A} {cells : List A}

/-- Following the links from `head` gives the cells in order, and then `null`. -/
def IsList (next : A → A) (null : A) : A → List A → Prop
  | head, [] => head = null
  | head, a :: rest => head = a ∧ a ≠ null ∧ IsList next null (next a) rest

lemma IsList.congr (h : IsList next null head cells) (heq : ∀ a ∈ cells, next' a = next a) :
    IsList next' null head cells := by
  induction cells generalizing head with
  | nil => exact h
  | cons a rest ih =>
    obtain ⟨hhead, hne, hrest⟩ := h
    refine ⟨hhead, hne, ?_⟩
    rw [heq a List.mem_cons_self]
    exact ih hrest fun b hb => heq b (List.mem_cons_of_mem a hb)

lemma IsList.pop (h : IsList next null head cells) (hne : head ≠ null) :
    ∃ rest, cells = head :: rest ∧ IsList next null (next head) rest := by
  cases cells with
  | nil => exact absurd h hne
  | cons a rest =>
    obtain ⟨rfl, -, hrest⟩ := h
    exact ⟨rest, rfl, hrest⟩

lemma IsList.eq_nil (h : IsList next null null cells) : cells = [] := by
  cases cells with
  | nil => rfl
  | cons a rest => exact absurd h.1.symm h.2.1

end Linked
