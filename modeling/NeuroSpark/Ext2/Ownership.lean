import NeuroSpark.Lib.Ownership
import NeuroSpark.Ext2.Effects
import NeuroSpark.Ext2.Operations

/-!
# Who owns the blocks of an ext2 image

Each inode in use holds blocks in its fifteen pointers and in the entries of its indirect block. In
an image in order every block that is held is marked used and held once, and no block of the
metadata is held. An inode that stores the target of a symbolic link in its pointers holds none.
-/

namespace NeuroSpark

open Word

namespace Ext2Inode

section

variable (i : Ext2Inode)

lemma block_setBlock_same {k : Nat} (hk : k < 15) {p : Nat} (hp : p < 4294967296) :
    (i.setBlock k p).block k = p := by
  rw [block, setBlock, Bytes.le32_setLe32_same _ _ (by omega), Nat.mod_eq_of_lt hp]

lemma block_setBlock_of_ne {k k' : Nat} (hk : k' ≠ k) (p : Nat) :
    (i.setBlock k p).block k' = i.block k' :=
  Bytes.le32_setLe32_disjoint _ _ (by omega)

lemma size_setBlock (k p : Nat) : (i.setBlock k p).size = i.size :=
  Bytes.le32_setLe32_disjoint _ _ (by omega)

lemma block_setSize (k v : Nat) : (i.setSize v).block k = i.block k :=
  Bytes.le32_setLe32_disjoint _ _ (by omega)

lemma block_setBlocks (k v : Nat) : (i.setBlocks v).block k = i.block k :=
  Bytes.le32_setLe32_disjoint _ _ (by omega)

lemma size_setBlocks (v : Nat) : (i.setBlocks v).size = i.size :=
  Bytes.le32_setLe32_disjoint _ _ (by omega)

lemma size_setSize {v : Nat} (hv : v < 4294967296) : (i.setSize v).size = v := by
  rw [size, setSize, Bytes.le32_setLe32_same _ _ (by omega), Nat.mod_eq_of_lt hv]

lemma mode_patch {off : Nat} (l : List UInt8) (hoff : 2 ≤ off) :
    Ext2Inode.mode (i.patch off l) = i.mode := by
  apply Bytes.le16_congr
  intro k hk
  exact Bytes.get_patch_of_lt _ _ (by omega)

@[simp] lemma mode_setBlock (k p : Nat) : (i.setBlock k p).mode = i.mode := by
  apply mode_patch
  omega

@[simp] lemma mode_setSize (v : Nat) : (i.setSize v).mode = i.mode := by
  apply mode_patch
  omega

@[simp] lemma mode_setBlocks (v : Nat) : (i.setBlocks v).mode = i.mode := by
  apply mode_patch
  omega

@[simp] lemma mode_setLinksCount (v : Nat) : (i.setLinksCount v).mode = i.mode := by
  apply mode_patch
  omega

lemma block_setLinksCount (k v : Nat) : (i.setLinksCount v).block k = i.block k := by
  rw [block, setLinksCount, Bytes.setLe16, Bytes.le32,
    Bytes.slice_patch_disjoint _ _ _ _ _ (by simp; omega)]
  rfl

lemma size_setLinksCount (v : Nat) : (i.setLinksCount v).size = i.size := by
  rfl

end

lemma mode_fresh (mode size links blocks : Nat) :
    (fresh mode size links blocks).mode = mode % 65536 := by
  simp only [fresh, mode_setBlocks, mode_setLinksCount, mode_setSize]
  exact Bytes.le16_setLe16_same _ _ (by decide)

lemma size_fresh (mode links blocks : Nat) {size : Nat} (h : size < 4294967296) :
    (fresh mode size links blocks).size = size := by
  simp only [fresh, size_setBlocks, size_setLinksCount, size_setSize _ h]

lemma block_fresh (mode size links blocks k : Nat) :
    (fresh mode size links blocks).block k = 0 := by
  simp only [fresh, block_setBlocks, block_setLinksCount, block_setSize]
  rw [block, setMode, Bytes.setLe16, Bytes.le32,
    Bytes.slice_patch_disjoint _ _ _ _ _ (by simp; omega)]
  simp [Bytes.slice, Le.value]

/-- A symbolic link whose target is in the inode itself. -/
def InlineSymlink (i : Ext2Inode) : Prop := i.mode &&& 0xF000 = 0xA000 ∧ i.size ≤ inlineTargetMax

instance (i : Ext2Inode) : Decidable i.InlineSymlink := inferInstanceAs (Decidable (_ ∧ _))

end Ext2Inode

/-- A place for the number of a block. -/
inductive PtrSlot where
  | ptr (k : Fin 15)
  | entry (j : Fin 256)
  deriving DecidableEq

namespace Ext2View

/-- The inode is in use and its pointers are block numbers. -/
def Owner (v : Ext2View) (n : Nat) : Prop :=
  v.inodeUsed n = true ∧ ¬ (v.inode n).InlineSymlink

instance (v : Ext2View) (n : Nat) : Decidable (v.Owner n) := inferInstanceAs (Decidable (_ ∧ _))

/-- The number in a slot of an inode, `0` for none. -/
def slot (v : Ext2View) (i : Ext2Inode) : PtrSlot → Nat
  | .ptr k => i.block k
  | .entry j => if i.block 12 = 0 then 0 else (v.data (i.block 12)).le32 (4 * j)

/-- The block that an inode holds in a slot. -/
def held (v : Ext2View) (n : Nat) (sl : PtrSlot) : Option Nat :=
  if v.Owner n ∧ v.slot (v.inode n) sl ≠ 0 then some (v.slot (v.inode n) sl) else none

lemma held_eq_some {v : Ext2View} {n p : Nat} {sl : PtrSlot} :
    v.held n sl = some p ↔ v.Owner n ∧ v.slot (v.inode n) sl = p ∧ p ≠ 0 := by
  unfold held
  split_ifs with h
  · constructor
    · intro hp
      rw [Option.some.injEq] at hp
      subst hp
      exact ⟨h.1, rfl, h.2⟩
    · rintro ⟨-, rfl, -⟩
      rfl
  · constructor
    · intro hp
      cases hp
    · rintro ⟨ho, rfl, hne⟩
      exact absurd ⟨ho, hne⟩ h

/-- The image is in order. -/
structure Owned (v : Ext2View) (isMeta : Nat → Prop) : Prop where
  exclusive : Ownership.Exclusive v.held fun p => v.blockUsed p = true ∧ ¬ isMeta p
  metaUsed : ∀ b, isMeta b → v.blockUsed b = true

/-- The contents with another inode `n`, as the driver has it in memory. -/
def withInode (v : Ext2View) (n : Nat) (i : Ext2Inode) : Ext2View :=
  { v with inode := Function.update v.inode n i }

@[simp] lemma withInode_inode_same (v : Ext2View) (n : Nat) (i : Ext2Inode) :
    (v.withInode n i).inode n = i := Function.update_self _ _ _

lemma withInode_inode_of_ne (v : Ext2View) {n m : Nat} (i : Ext2Inode) (h : m ≠ n) :
    (v.withInode n i).inode m = v.inode m := Function.update_of_ne h _ _

@[simp] lemma withInode_self (v : Ext2View) (n : Nat) : v.withInode n (v.inode n) = v := by
  simp [withInode]

variable {v v' : Ext2View} {isMeta : Nat → Prop} {n : Nat} {i i' : Ext2Inode} {sl : PtrSlot}
  {j : Ext2Inode}

lemma held_withInode_same {p : Nat} : (v.withInode n i).held n sl = some p ↔
      v.inodeUsed n = true ∧ ¬ i.InlineSymlink ∧ v.slot i sl = p ∧ p ≠ 0 := by
  rw [held_eq_some]
  simp only [Owner, withInode_inode_same, and_assoc]
  exact Iff.rfl

lemma held_withInode_of_ne {m : Nat} (h : m ≠ n) (sl : PtrSlot) :
    (v.withInode n i).held m sl = v.held m sl := by
  simp only [held, Owner, withInode_inode_of_ne _ _ h]
  rfl

lemma slot_congr (h : i.block 12 ≠ 0 → v'.data (i.block 12) = v.data (i.block 12))
    (sl : PtrSlot) : v'.slot i sl = v.slot i sl := by
  cases sl with
  | ptr k => rfl
  | entry j =>
    simp only [slot]
    split_ifs with h12
    · rfl
    · rw [h h12]

lemma held_congr {m : Nat} (hinode : v'.inode m = v.inode m)
    (hused : v'.inodeUsed m = v.inodeUsed m)
    (h : v.Owner m → (v.inode m).block 12 ≠ 0 →
      v'.data ((v.inode m).block 12) = v.data ((v.inode m).block 12)) (sl : PtrSlot) :
    v'.held m sl = v.held m sl := by
  have howner : v'.Owner m ↔ v.Owner m := by
    simp only [Owner, hinode, hused]
  apply Option.ext
  intro p
  rw [held_eq_some, held_eq_some, howner, hinode]
  refine and_congr_right fun ho => ?_
  rw [slot_congr (h ho)]

lemma held_inodeUsed_of_ne {m : Nat} (h : m ≠ n) (u : Bool) (sl : PtrSlot) :
    ({ v with inodeUsed := Function.update v.inodeUsed n u } : Ext2View).held m sl =
      v.held m sl := by
  apply held_congr
  · rfl
  · exact Function.update_of_ne h _ _
  · exact fun _ _ => rfl

/-- Every pointer of `i` is empty or that of `j`. -/
def PtrLe (i j : Ext2Inode) : Prop := ∀ k : Fin 15, i.block k = 0 ∨ i.block k = j.block k

lemma PtrLe.refl (i : Ext2Inode) : PtrLe i i := fun _ => Or.inr rfl

lemma PtrLe.of_eq (h : ∀ k, i.block k = j.block k) : PtrLe i j :=
  fun k => Or.inr (h k)

lemma PtrLe.trans {j k : Ext2Inode} (h : PtrLe i j) (h' : PtrLe j k) : PtrLe i k := by
  intro x
  rcases h x with hx | hx
  · exact Or.inl hx
  · rw [hx]
    exact h' x

lemma PtrLe.slot (h : PtrLe i j) (v : Ext2View) (sl : PtrSlot) :
    v.slot i sl = 0 ∨ v.slot i sl = v.slot j sl := by
  cases sl with
  | ptr k => exact h k
  | entry k =>
    simp only [Ext2View.slot]
    rcases h 12 with h12 | h12
    · exact Or.inl (if_pos h12)
    · have heq : i.block 12 = j.block 12 := h12
      rw [heq]
      exact Or.inr rfl

lemma Owned.of_ptrLe (h : (v.withInode n j).Owned isMeta) (hle : PtrLe i j)
    (hsym : ¬ i.InlineSymlink → ¬ j.InlineSymlink) : (v.withInode n i).Owned isMeta := by
  refine ⟨h.exclusive.mono (fun m sl p hp => ?_) fun _ _ _ _ hu => hu, h.metaUsed⟩
  by_cases hm : m = n
  · subst hm
    rw [held_withInode_same] at hp ⊢
    obtain ⟨hu, hi, hslot, hne⟩ := hp
    refine ⟨hu, hsym hi, ?_, hne⟩
    rcases hle.slot v sl with h0 | heq
    · exact absurd (hslot.symm.trans h0) hne
    · rw [← heq, hslot]
  · rw [held_withInode_of_ne hm] at hp ⊢
    exact hp

/-- The place of a block of a file. -/
def fileSlot (index : Nat) : Option PtrSlot :=
  if h : index < 12 then some (.ptr ⟨index, by omega⟩)
  else if h : index - 12 < 256 then some (.entry ⟨index - 12, h⟩) else none

lemma fileSlot_ne_ptr {index : Nat} (h : fileSlot index = some sl) {k : Fin 15}
    (hk : 12 ≤ k.val) : sl ≠ .ptr k := by
  rintro rfl
  unfold fileSlot at h
  split_ifs at h with h₁ h₂
  · simp only [Option.some.injEq, PtrSlot.ptr.injEq] at h
    subst h
    simp only at hk
    omega
  · cases h

lemma fileSlot_inj {a b : Nat} (ha : fileSlot a = some sl) (hb : fileSlot b = some sl) : a = b := by
  unfold fileSlot at ha hb
  split_ifs at ha hb with h₁ h₂ h₃ h₄ h₅ h₆ <;>
    simp only [Option.some.injEq] at ha hb <;> subst ha <;> simp at hb <;> omega

lemma Owned.dataBlock (h : v.Owned isMeta) {m p : Nat} (hp : v.held m sl = some p) :
    v.blockUsed p = true ∧ ¬ isMeta p := h.exclusive.used hp

lemma Owned.setData (h : v.Owned isMeta) {p : Nat} (hp : ∀ m, v.held m (.ptr 12) ≠ some p)
    (buf : Ext2Block) : ({ v with data := Function.update v.data p buf } : Ext2View).Owned isMeta := by
  have hheld : ∀ m sl, ({ v with data := Function.update v.data p buf } : Ext2View).held m sl =
      v.held m sl := by
    intro m sl
    apply held_congr
    · rfl
    · rfl
    · intro ho h12
      apply Function.update_of_ne
      intro he
      exact hp m (held_eq_some.mpr ⟨ho, he, he ▸ h12⟩)
  refine ⟨h.exclusive.mono (fun m sl q hq => ?_) fun _ _ _ _ hu => hu, h.metaUsed⟩
  rwa [hheld] at hq

lemma Owned.ne_indirect (h : v.Owned isMeta) {m p : Nat} (hp : v.held m sl = some p)
    (hsl : sl ≠ .ptr 12) (m' : Nat) : v.held m' (.ptr 12) ≠ some p :=
  fun hp' => hsl (h.exclusive.unique hp hp').2

end Ext2View

end NeuroSpark
