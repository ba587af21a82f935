import Mathlib.Data.List.Basic
import Mathlib.Tactic.Common

/-!
# Chains of records

Records of different lengths lie end to end in a space, each found from the one before it by adding
its length. `Tiles len a b l` says that the records at the offsets `l` fill the space from `a` to
`b`; `visit` is the loop that follows such a chain. A record of a chain can be cut in two, and two
neighbours can be joined.
-/

namespace Records

variable {len len' : Nat → Nat} {a b c : Nat} {l m : List Nat}

/-- The records at the offsets in the list fill the space from `a` to `b`. -/
def Tiles (len : Nat → Nat) : Nat → Nat → List Nat → Prop
  | a, b, [] => a = b
  | a, b, x :: l => x = a ∧ 0 < len a ∧ Tiles len (a + len a) b l

lemma tiles_cons {x : Nat} :
    Tiles len a b (x :: l) ↔ x = a ∧ 0 < len a ∧ Tiles len (a + len a) b l := Iff.rfl

namespace Tiles

lemma le (h : Tiles len a b l) : a ≤ b := by
  induction l generalizing a with
  | nil => exact Nat.le_of_eq h
  | cons x l ih => exact Nat.le_trans (Nat.le_add_right _ _) (ih h.2.2)

lemma bounds (h : Tiles len a b l) {x : Nat} (hx : x ∈ l) :
    a ≤ x ∧ 0 < len x ∧ x + len x ≤ b := by
  induction l generalizing a with
  | nil => cases hx
  | cons y l ih =>
    obtain ⟨rfl, hpos, htail⟩ := h
    rcases List.mem_cons.mp hx with rfl | hx
    · exact ⟨Nat.le_refl _, hpos, htail.le⟩
    · obtain ⟨h₁, h₂⟩ := ih htail hx
      exact ⟨Nat.le_trans (Nat.le_add_right _ _) h₁, h₂⟩

lemma congr (h : Tiles len a b l) (heq : ∀ x ∈ l, len' x = len x) : Tiles len' a b l := by
  induction l generalizing a with
  | nil => exact h
  | cons x l ih =>
    obtain ⟨rfl, hpos, htail⟩ := h
    have hx := heq x (List.mem_cons_self ..)
    rw [tiles_cons, hx]
    exact ⟨rfl, hpos, ih htail fun y hy => heq y (List.mem_cons_of_mem _ hy)⟩

lemma append (h : Tiles len a c l) (h' : Tiles len c b m) : Tiles len a b (l ++ m) := by
  induction l generalizing a with
  | nil =>
    obtain rfl := h
    exact h'
  | cons x l ih => exact ⟨h.1, h.2.1, ih h.2.2⟩

lemma cut {x : Nat} (h : Tiles len a b (l ++ x :: m)) :
    Tiles len a x l ∧ 0 < len x ∧ Tiles len (x + len x) b m := by
  induction l generalizing a with
  | nil =>
    obtain ⟨rfl, hpos, htail⟩ := h
    exact ⟨rfl, hpos, htail⟩
  | cons y l ih =>
    obtain ⟨hy, hpos, htail⟩ := h
    obtain ⟨h₁, h₂⟩ := ih htail
    exact ⟨⟨hy, hpos, h₁⟩, h₂⟩

lemma split {x k : Nat} (h : Tiles len a b (l ++ x :: m)) (hk : 0 < k) (hlt : k < len x)
    (heq : ∀ y, y ∈ l ∨ y ∈ m → len' y = len y) (hx : len' x = k)
    (hnew : len' (x + k) = len x - k) : Tiles len' a b (l ++ x :: (x + k) :: m) := by
  obtain ⟨h₁, -, h₂⟩ := h.cut
  refine (h₁.congr fun y hy => heq y (Or.inl hy)).append ⟨rfl, hx ▸ hk, ?_⟩
  have hend : x + k + (len x - k) = x + len x := by omega
  rw [hx]
  refine ⟨rfl, by omega, ?_⟩
  rw [hnew, hend]
  exact h₂.congr fun y hy => heq y (Or.inr hy)

lemma merge {p x : Nat} (h : Tiles len a b (l ++ p :: x :: m))
    (heq : ∀ y, y ∈ l ∨ y ∈ m → len' y = len y) (hp : len' p = len p + len x) :
    Tiles len' a b (l ++ p :: m) := by
  obtain ⟨h₁, hpos, rfl, -, h₂⟩ := h.cut
  refine (h₁.congr fun y hy => heq y (Or.inl hy)).append ⟨rfl, by omega, ?_⟩
  rw [hp, ← Nat.add_assoc]
  exact h₂.congr fun y hy => heq y (Or.inr hy)

lemma length_le (h : Tiles len a b l) : l.length + a ≤ b := by
  induction l generalizing a with
  | nil => exact Nat.le_of_eq ((Nat.zero_add a).trans h)
  | cons x l ih =>
    obtain ⟨rfl, hpos, htail⟩ := h
    have := ih htail
    rw [List.length_cons]
    omega

end Tiles

/-- The offsets that a loop visits: it stops where fewer than `room` bytes are left, and at a record
of length zero. -/
def visit (len : Nat → Nat) (room size : Nat) : Nat → Nat → List Nat
  | 0, _ => []
  | fuel + 1, off =>
    if off + room ≤ size then
      if len off = 0 then [] else off :: visit len room size fuel (off + len off)
    else []

lemma Tiles.visit_eq {room size fuel : Nat} (h : Tiles len a size l) (hpos : 0 < room)
    (hroom : ∀ x ∈ l, room ≤ len x) (hfuel : l.length ≤ fuel) : visit len room size fuel a = l := by
  induction l generalizing a fuel with
  | nil =>
    obtain rfl := h
    cases fuel with
    | zero => rfl
    | succ fuel => rw [visit, if_neg (by omega)]
  | cons x l ih =>
    obtain ⟨rfl, hlen, htail⟩ := h
    cases fuel with
    | zero => exact absurd hfuel (Nat.not_succ_le_zero _)
    | succ fuel =>
      have hx := hroom x (List.mem_cons_self ..)
      have hle := htail.le
      rw [visit, if_pos (by omega), if_neg (by omega)]
      rw [ih htail (fun y hy => hroom y (List.mem_cons_of_mem _ hy)) (Nat.le_of_succ_le_succ hfuel)]

end Records
