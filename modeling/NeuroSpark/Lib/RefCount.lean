import Mathlib.Data.Fintype.EquivFin
import Mathlib.Order.WellFounded
import Mathlib.Tactic.Common

/-!
# Reference counts

Objects hold references to objects, and some are held from outside. An object is *kept* when there
is a chain of references to it that begins outside. Reference counting only sees whether an object
is held at all; without cycles that is the same.
-/

namespace RefCount

variable {α : Type*} {live held : α → Prop} {refers : α → α → Prop}

/-- A live object that is held from outside, or by one that is kept. -/
inductive Kept (live held : α → Prop) (refers : α → α → Prop) : α → Prop
  | outside {x : α} (hlive : live x) (hheld : held x) : Kept live held refers x
  | inside {x y : α} (hx : Kept live held refers x) (hy : live y) (hrefers : refers x y) :
    Kept live held refers y

/-- No object refers to itself through others. -/
def Acyclic (refers : α → α → Prop) : Prop := ∀ x, ¬ Relation.TransGen refers x x

lemma Acyclic.mono {refers' : α → α → Prop} (h : Acyclic refers)
    (hsub : ∀ x y, refers' x y → refers x y) : Acyclic refers' :=
  fun x hx => h x (Relation.TransGen.mono hsub _ _ hx)

lemma acyclic_of_lt (rank : α → Nat) (h : ∀ x y, refers x y → rank y < rank x) :
    Acyclic refers := by
  have hlt : ∀ x y, Relation.TransGen refers x y → rank y < rank x := by
    intro x y hxy
    induction hxy with
    | single hstep => exact h _ _ hstep
    | tail _ hstep ih => exact (h _ _ hstep).trans ih
  exact fun x hx => lt_irrefl _ (hlt x x hx)

/-- Without cycles every live object is kept, when each of them is held by something. -/
theorem kept_of_held [Finite α] (hacyclic : Acyclic refers)
    (hall : ∀ y, live y → held y ∨ ∃ x, live x ∧ refers x y) {y : α} (hy : live y) :
    Kept live held refers y := by
  have htrans : IsTrans α (Relation.TransGen refers) := ⟨fun _ _ _ => Relation.TransGen.trans⟩
  have hirrefl : Std.Irrefl (Relation.TransGen refers) := ⟨hacyclic⟩
  have hwf := Finite.wellFounded_of_trans_of_irrefl (Relation.TransGen refers)
  induction y using hwf.induction with
  | _ y ih =>
    rcases hall y hy with hheld | ⟨x, hx, hrefers⟩
    · exact .outside hy hheld
    · exact .inside (ih x (.single hrefers) hx) hy hrefers

end RefCount
