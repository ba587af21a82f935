import Mathlib.Data.Nat.ModEq
import Mathlib.Logic.Function.Basic
import Mathlib.Tactic.Common

/-!
# Bounded ring buffers

A ring of capacity `n` is an array of `n` slots with a head, a tail and a count. The head and the
tail move round the array, and the tail stands `count` places behind the head: both facts are fields
of the structure. Read from the head on, a ring is a list; `push` appends to it and `pop` takes its
first element.
-/

/-- An array of `n` slots used as a queue. -/
structure RingBuffer (α : Type*) (n : Nat) where
  slots : Fin n → α
  head : Fin n
  tail : Fin n
  count : Nat
  count_le : count ≤ n
  tail_eq : tail.val = (head.val + count) % n

namespace RingBuffer

variable {α : Type*} {n : Nat}

/-- The place after `i`, round the array. -/
def next (i : Fin n) : Fin n := ⟨(i.val + 1) % n, Nat.mod_lt _ i.pos⟩

/-- The slot `i` places behind the head. -/
def place (r : RingBuffer α n) (i : Nat) : Fin n := ⟨(r.head.val + i) % n, Nat.mod_lt _ r.head.pos⟩

/-- The queued elements, oldest first. -/
def toList (r : RingBuffer α n) : List α := (List.range r.count).map fun i => r.slots (r.place i)

/-- The ring with nothing in it and `a` in every slot. -/
def empty (a : α) (h : 0 < n) : RingBuffer α n where
  slots _ := a
  head := ⟨0, h⟩
  tail := ⟨0, h⟩
  count := 0
  count_le := Nat.zero_le _
  tail_eq := (Nat.zero_mod n).symm

/-- Forget what is queued. The slots keep what they hold. -/
def reset (r : RingBuffer α n) : RingBuffer α n where
  slots := r.slots
  head := ⟨0, r.head.pos⟩
  tail := ⟨0, r.head.pos⟩
  count := 0
  count_le := Nat.zero_le _
  tail_eq := (Nat.zero_mod n).symm

/-- Store `a` at the tail. -/
def push (r : RingBuffer α n) (a : α) (h : r.count < n) : RingBuffer α n where
  slots := Function.update r.slots r.tail a
  head := r.head
  tail := next r.tail
  count := r.count + 1
  count_le := h
  tail_eq := by simp [next, r.tail_eq, Nat.add_assoc]

/-- Give up the slot at the head, which is left with `fill`. -/
def pop (r : RingBuffer α n) (fill : α) (h : 0 < r.count) : RingBuffer α n where
  slots := Function.update r.slots r.head fill
  head := next r.head
  tail := r.tail
  count := r.count - 1
  count_le := by have := r.count_le; omega
  tail_eq := by
    have harith : r.head.val + 1 + (r.count - 1) = r.head.val + r.count := by omega
    simp [next, r.tail_eq, harith]

@[simp] lemma push_count (r : RingBuffer α n) (a : α) (h : r.count < n) :
    (r.push a h).count = r.count + 1 := rfl

@[simp] lemma pop_count (r : RingBuffer α n) (fill : α) (h : 0 < r.count) :
    (r.pop fill h).count = r.count - 1 := rfl

@[simp] lemma length_toList (r : RingBuffer α n) : r.toList.length = r.count := by
  simp [toList]

@[simp] lemma toList_empty (a : α) (h : 0 < n) : (empty a h : RingBuffer α n).toList = [] := rfl

lemma toList_eq_nil_iff (r : RingBuffer α n) : r.toList = [] ↔ r.count = 0 := by
  rw [← List.length_eq_zero_iff, length_toList]

lemma toList_congr {r r' : RingBuffer α n} (hslots : r'.slots = r.slots) (hhead : r'.head = r.head)
    (hcount : r'.count = r.count) : r'.toList = r.toList := by
  simp only [toList, place, hslots, hhead, hcount]

lemma place_ne {r : RingBuffer α n} {i j : Nat} (hij : i < j) (hj : j < n) :
    r.place i ≠ r.place j := by
  intro he
  have hmod : r.head.val + i ≡ r.head.val + j [MOD n] := congrArg Fin.val he
  exact hij.ne ((Nat.ModEq.add_left_cancel' _ hmod).eq_of_lt_of_lt (hij.trans hj) hj)

lemma place_zero (r : RingBuffer α n) : r.place 0 = r.head :=
  Fin.ext (Nat.mod_eq_of_lt r.head.isLt)

lemma place_count (r : RingBuffer α n) : r.place r.count = r.tail := Fin.ext r.tail_eq.symm

/-- Pushing appends. -/
theorem toList_push (r : RingBuffer α n) (a : α) (h : r.count < n) :
    (r.push a h).toList = r.toList ++ [a] := by
  have hold : ∀ i ∈ List.range r.count,
      (r.push a h).slots ((r.push a h).place i) = r.slots (r.place i) := by
    intro i hi
    have hne : r.place i ≠ r.tail := by
      rw [← place_count]
      exact place_ne (List.mem_range.1 hi) h
    exact Function.update_of_ne hne _ _
  have hnew : (r.push a h).slots ((r.push a h).place r.count) = a := by
    have hplace : (r.push a h).place r.count = r.tail := r.place_count
    rw [hplace]
    exact Function.update_self ..
  rw [toList, push_count, List.range_succ, List.map_append, List.map_congr_left hold]
  simp [toList, hnew]

/-- Popping takes the first element. -/
theorem toList_pop (r : RingBuffer α n) (fill : α) (h : 0 < r.count) :
    r.toList = r.slots r.head :: (r.pop fill h).toList := by
  obtain ⟨k, hk⟩ := Nat.exists_eq_succ_of_ne_zero (Nat.pos_iff_ne_zero.1 h)
  have hle := r.count_le
  have hrest : ∀ i ∈ List.range k,
      (r.pop fill h).slots ((r.pop fill h).place i) = r.slots (r.place (i + 1)) := by
    intro i hi
    have hik := List.mem_range.1 hi
    have hplace : (r.pop fill h).place i = r.place (i + 1) := by
      refine Fin.ext ?_
      change ((r.head.val + 1) % n + i) % n = (r.head.val + (i + 1)) % n
      rw [Nat.mod_add_mod]
      congr 1
      omega
    have hne : r.place (i + 1) ≠ r.head := by
      rw [← place_zero]
      exact (place_ne (Nat.succ_pos i) (by omega)).symm
    rw [hplace]
    exact Function.update_of_ne hne _ _
  have hcount : (r.pop fill h).count = k := by
    rw [pop_count, hk]
    rfl
  rw [toList, hk, List.range_succ_eq_map, List.map_cons, place_zero, List.map_map, toList, hcount,
    List.map_congr_left hrest]
  rfl

end RingBuffer
