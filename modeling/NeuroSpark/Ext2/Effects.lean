import Mathlib.Data.List.TakeWhile
import NeuroSpark.Ext2.View

/-!
# What the functions of the ext2 driver do to the contents

One lemma for each function that reads or writes the disk, on an image with a layout.
-/

namespace NeuroSpark

open Function (update)
open Word

variable {s s' s'' : Ext2} {L : Ext2Layout} {v v' : Ext2View}

/-- The driver went from `s` to `s'`, where the image has the contents `v`; the mount and the
handles stay. -/
structure Ext2.Becomes (s s' : Ext2) (L : Ext2Layout) (v : Ext2View) : Prop where
  layout : s'.HasLayout L
  mount : s'.mount = s.mount
  handles : s'.handles = s.handles
  stack : s'.stack = s.stack
  view : s'.view L = v

section

variable (h : s.HasLayout L)
include h

lemma Ext2.HasLayout.becomes : s.Becomes s L (s.view L) :=
  ⟨h, rfl, rfl, rfl, rfl⟩

omit h in
lemma Ext2.Becomes.trans (h : s.Becomes s' L v) (h' : s'.Becomes s'' L v') : s.Becomes s'' L v' :=
  ⟨h'.layout, h'.mount.trans h.mount, h'.handles.trans h.handles, h'.stack.trans h.stack, h'.view⟩

omit h in
lemma Ext2.Becomes.cast (h : s.Becomes s' L v) (hv : v = v') : s.Becomes s' L v' := hv ▸ h

omit h in
lemma Ext2.Becomes.self (h : s.Becomes s' L v) : s.Becomes s' L (s'.view L) := h.cast h.view.symm

lemma Ext2.HasLayout.storedAt {b : Nat} (hb : b < s.mount.totalBlocks)
    (buf : Ext2Block) : StoredAt s.mount s.blockAt (writeBlock s b buf).blockAt b buf :=
  fun _ hx => h.blockAt_writeBlock hb hx buf

lemma writeBlock_data {b : Nat} (hb : b < s.mount.totalBlocks) (hmeta : ¬ L.IsMeta s.mount b)
    (buf : Ext2Block) :
    s.Becomes (writeBlock s b buf) L
      { s.view L with data := update (s.view L).data b buf } :=
  ⟨h.of_writeBlock_data hb hmeta buf, rfl, rfl, rfl,
    (h.storedAt hb buf).view_data h.fits hb hmeta⟩

lemma readBlock_data {b : Nat} (hb : b < s.mount.totalBlocks)
    (hmeta : ¬ L.IsMeta s.mount b) : readBlock s b = some ((s.view L).data b) := by
  rw [readBlock_eq h.healthy]
  simp [Ext2.view, Ext2Layout.view, hb, hmeta]

omit h in
lemma Ext2Layout.Fits.lt_groupDescCount {m : Ext2MountState} (hL : L.Fits m) {x : Nat}
    (hx : x < m.totalBlocks) : x / m.blocksPerGroup < m.groupDescCount := by
  have hpos := hL.blocksPerGroup.1
  have hdiv := Nat.div_add_mod (m.totalBlocks + m.blocksPerGroup - 1) m.blocksPerGroup
  have hmod := Nat.mod_lt (m.totalBlocks + m.blocksPerGroup - 1) hpos
  rw [← hL.groupDescCount] at hdiv
  apply Nat.div_lt_of_lt_mul
  omega

omit h in
lemma Ext2Layout.Fits.group_mul_lt {m : Ext2MountState} (hL : L.Fits m) {g : Nat}
    (hg : g < m.groupDescCount) : g * m.blocksPerGroup < 2147483648 := by
  have hle := hL.blocks
  have hdiv := Nat.div_add_mod (m.totalBlocks + m.blocksPerGroup - 1) m.blocksPerGroup
  rw [← hL.groupDescCount] at hdiv
  have hmul := Nat.mul_le_mul_right m.blocksPerGroup (Nat.succ_le_of_lt hg)
  rw [Nat.succ_mul, Nat.mul_comm m.groupDescCount] at hmul
  omega

omit h in
lemma Ext2Layout.Fits.inode_lt_groupDescCount {m : Ext2MountState} (hL : L.Fits m) {n : Nat}
    (hn : ValidInode m n) : (n - 1) / m.inodesPerGroup < m.groupDescCount := by
  have hle := hL.totalInodes.1
  obtain ⟨h₁, h₂⟩ := hn
  apply Nat.div_lt_of_lt_mul
  rw [Nat.mul_comm]
  omega

lemma readGroupDesc_eq {k : Nat} (hk : k < s.mount.groupDescCount) :
    readGroupDesc s k = some ⟨L.blockBitmap k, L.inodeBitmap k, L.inodeTable k⟩ := by
  have hlt := h.fits.lt_totalBlocks (.desc (k / 32)) ⟨k, hk, rfl⟩
  have hle := h.fits.blocks
  simp only [Ext2Layout.block] at hlt
  rw [readGroupDesc, u32_of_lt (by omega), readBlock_eq h.healthy, ← h.desc k hk]
  rfl

omit h in
lemma inodeGroupAndOffset_of_valid {m : Ext2MountState} {n : Nat} (hn : ValidInode m n) :
    inodeGroupAndOffset m n =
      some ((n - 1) / m.inodesPerGroup, (n - 1) % m.inodesPerGroup) := by
  obtain ⟨h₁, h₂⟩ := hn
  rw [inodeGroupAndOffset, if_neg (by omega)]

omit h in
lemma inodeGroupAndOffset_of_not_valid {m : Ext2MountState} {n : Nat} (hn : ¬ ValidInode m n) :
    inodeGroupAndOffset m n = none := by
  rw [inodeGroupAndOffset, if_pos]
  by_contra hc
  exact hn ⟨by omega, by omega⟩

lemma inodePlace_eq {n : Nat} (hn : ValidInode s.mount n) :
    inodePlace s n = some (L.inodeBlock s.mount n, inodeOffset s.mount n) := by
  have hL := h.fits
  have hlt := hL.lt_totalBlocks _ (inodeTable_valid hL hn)
  simp only [Ext2Layout.block] at hlt
  have hidx : (n - 1) % s.mount.inodesPerGroup * s.mount.inodeSize < 4294967296 := by
    have h₁ := Nat.mod_lt (n - 1) hL.inodesPerGroup.1
    have h₂ := hL.inodesPerGroup.2
    have h₃ := Nat.le_of_dvd (by decide) hL.inodeSize.2
    calc (n - 1) % s.mount.inodesPerGroup * s.mount.inodeSize ≤ 8192 * 1024 :=
          Nat.mul_le_mul (by omega) h₃
      _ < 4294967296 := by decide
  have hle := hL.blocks
  simp only [inodePlace, inodeGroupAndOffset_of_valid hn,
    readGroupDesc_eq h (hL.inode_lt_groupDescCount hn), Option.map_some, u32_of_lt hidx]
  rw [u32_of_lt (by omega)]
  rfl

lemma inodeBlock_lt {n : Nat} (hn : ValidInode s.mount n) :
    L.inodeBlock s.mount n < s.mount.totalBlocks :=
  h.fits.lt_totalBlocks _ (inodeTable_valid h.fits hn)

lemma readInode_eq {n : Nat} (hn : ValidInode s.mount n) :
    readInode s n = some ((s.view L).inode n) := by
  have hoff := inodeOffset_le h.fits.inodeSize n
  simp only [readInode, inodePlace_eq h hn, readBlock_eq h.healthy, Option.map_some,
    Option.some.injEq]
  apply Bytes.ext_get
  intro k hk
  simp only [Ext2.view, Ext2Layout.view, if_pos hn]
  rw [Bytes.get_ofFun _ hk, Bytes.get_ofFun _ hk, Ext2.bufferGet, if_pos (by omega)]

omit h in
lemma readInode_none {n : Nat} (hn : ¬ ValidInode s.mount n) : readInode s n = none := by
  simp only [readInode, inodePlace, inodeGroupAndOffset_of_not_valid hn]

lemma readInode_eq_some {n : Nat} {i : Ext2Inode}
    (hi : readInode s n = some i) : ValidInode s.mount n ∧ i = (s.view L).inode n := by
  by_cases hn : ValidInode s.mount n
  · rw [readInode_eq h hn, Option.some.injEq] at hi
    exact ⟨hn, hi.symm⟩
  · rw [readInode_none hn] at hi
    cases hi

lemma writeInode_spec {n : Nat} (hn : ValidInode s.mount n) (i : Ext2Inode) :
    (writeInode s n i).2 = true ∧ s.Becomes (writeInode s n i).1 L
      { s.view L with inode := update (s.view L).inode n i } := by
  simp only [writeInode, inodePlace_eq h hn, readBlock_eq h.healthy]
  have hst := h.storedAt (inodeBlock_lt h hn)
    ((s.blockAt (L.inodeBlock s.mount n)).patch (inodeOffset s.mount n) (i.slice 0 128))
  refine ⟨trivial, ?_, rfl, rfl, rfl, hst.view_inode h.fits hn⟩
  exact h.of_writeBlock_role (inodeTable_valid h.fits hn) (by simp) _

omit h in
lemma firstFreeBit_spec {bitmap : Ext2Block} {perGroup bit : Nat} {inRange : Nat → Bool}
    (h : firstFreeBit bitmap perGroup inRange = some bit) :
    bit < perGroup ∧ inRange bit = true ∧ bitTest bitmap bit = false := by
  have hmem := List.mem_of_find?_eq_some h
  have hfree := List.find?_some h
  refine ⟨?_, List.mem_takeWhile_imp hmem, by simpa using hfree⟩
  exact List.mem_range.mp ((List.takeWhile_sublist _).subset hmem)

lemma setBlockBit_spec {x : Nat} (hx : ValidBlock s.mount x) (u : Bool) :
    s.Becomes (writeBlock s (L.blockBitmap ((x - s.mount.firstDataBlock) / s.mount.blocksPerGroup))
      (bitSet (s.blockAt (L.blockBitmap ((x - s.mount.firstDataBlock) / s.mount.blocksPerGroup)))
        ((x - s.mount.firstDataBlock) % s.mount.blocksPerGroup) u)) L
      { s.view L with blockUsed := update (s.view L).blockUsed x u } := by
  have hv := blockBitmap_valid hx
  refine ⟨h.of_writeBlock_role hv (by simp) _, rfl, rfl, rfl, ?_⟩
  exact (h.storedAt (h.fits.lt_totalBlocks _ hv) _).view_blockBit h.fits hx

lemma setInodeBit_spec {n : Nat} (hn : ValidInode s.mount n) (u : Bool) :
    s.Becomes (writeBlock s (L.inodeBitmap ((n - 1) / s.mount.inodesPerGroup))
      (bitSet (s.blockAt (L.inodeBitmap ((n - 1) / s.mount.inodesPerGroup)))
        ((n - 1) % s.mount.inodesPerGroup) u)) L
      { s.view L with inodeUsed := update (s.view L).inodeUsed n u } := by
  have hv := inodeBitmap_valid hn
  refine ⟨h.of_writeBlock_role hv (by simp) _, rfl, rfl, rfl, ?_⟩
  exact (h.storedAt (h.fits.lt_totalBlocks _ hv) _).view_inodeBit h.fits hn

omit h in
lemma group_bit {g i d : Nat} (hi : i < d) : (g * d + i) / d = g ∧ (g * d + i) % d = i := by
  constructor
  · rw [Nat.add_comm, Nat.add_mul_div_right _ _ (by omega), Nat.div_eq_of_lt hi, Nat.zero_add]
  · rw [Nat.add_comm, Nat.add_mul_mod_self_right, Nat.mod_eq_of_lt hi]

/-- An image with the bit of a block set or cleared. -/
def markBlock (L : Ext2Layout) (s : Ext2) (x : Nat) (u : Bool) : Ext2 :=
  writeBlock s (L.blockBitmap ((x - s.mount.firstDataBlock) / s.mount.blocksPerGroup))
    (bitSet (s.blockAt (L.blockBitmap ((x - s.mount.firstDataBlock) / s.mount.blocksPerGroup)))
      ((x - s.mount.firstDataBlock) % s.mount.blocksPerGroup) u)

/-- An image with the bit of an inode set or cleared. -/
def markInode (L : Ext2Layout) (s : Ext2) (n : Nat) (u : Bool) : Ext2 :=
  writeBlock s (L.inodeBitmap ((n - 1) / s.mount.inodesPerGroup))
    (bitSet (s.blockAt (L.inodeBitmap ((n - 1) / s.mount.inodesPerGroup)))
      ((n - 1) % s.mount.inodesPerGroup) u)

lemma allocBlockIn_marks {groups : List Nat} (hg : ∀ g ∈ groups, g < s.mount.groupDescCount) :
    allocBlockIn s groups = (s, none) ∨
      ∃ x, ValidBlock s.mount x ∧ (s.view L).blockUsed x = false ∧
        allocBlockIn s groups = (markBlock L s x true, some x) := by
  induction groups with
  | nil => exact Or.inl rfl
  | cons g groups ih =>
    have hgl := hg g (List.mem_cons_self ..)
    simp only [allocBlockIn, readGroupDesc_eq h hgl, readBlock_eq h.healthy]
    split
    · rename_i bit hbit
      right
      obtain ⟨hlt, hrange, hfree⟩ := firstFreeBit_spec hbit
      have hmul := h.fits.group_mul_lt hgl
      have hbpg := h.fits.blocksPerGroup.2
      have hfdb := h.fits.firstDataBlock
      have hnum : u32 (g * s.mount.blocksPerGroup + bit + s.mount.firstDataBlock) =
          g * s.mount.blocksPerGroup + bit + s.mount.firstDataBlock := u32_of_lt (by omega)
      simp only [hnum, decide_eq_true_eq] at hrange ⊢
      have hx : ValidBlock s.mount (g * s.mount.blocksPerGroup + bit + s.mount.firstDataBlock) :=
        ⟨by omega, hrange⟩
      obtain ⟨hdiv, hmod⟩ := group_bit (g := g) hlt
      refine ⟨_, hx, ?_, ?_⟩
      · simp only [Ext2.view, Ext2Layout.view, Nat.add_sub_cancel, hdiv, hmod, hfree,
          Bool.and_false]
      · simp only [markBlock, Nat.add_sub_cancel, hdiv, hmod]
    · exact ih fun g' hg' => hg g' (List.mem_cons_of_mem _ hg')

lemma allocBlock_marks : allocBlock s = (s, none) ∨
      ∃ x, ValidBlock s.mount x ∧ (s.view L).blockUsed x = false ∧
        allocBlock s = (markBlock L s x true, some x) :=
  allocBlockIn_marks h fun _ hg => List.mem_range.mp hg

lemma allocBlock_spec : allocBlock s = (s, none) ∨
      ∃ x, (allocBlock s).2 = some x ∧ ValidBlock s.mount x ∧
        (s.view L).blockUsed x = false ∧ s.Becomes (allocBlock s).1 L
          { s.view L with blockUsed := update (s.view L).blockUsed x true } := by
  refine (allocBlock_marks h).imp_right ?_
  rintro ⟨x, hx, hfree, heq⟩
  rw [heq]
  exact ⟨x, rfl, hx, hfree, setBlockBit_spec h hx true⟩

lemma allocInodeIn_marks {groups : List Nat} (hg : ∀ g ∈ groups, g < s.mount.groupDescCount) :
    allocInodeIn s groups = (s, none) ∨
      ∃ n, ValidInode s.mount n ∧ (s.view L).inodeUsed n = false ∧
        allocInodeIn s groups = (markInode L s n true, some n) := by
  induction groups with
  | nil => exact Or.inl rfl
  | cons g groups ih =>
    have hgl := hg g (List.mem_cons_self ..)
    simp only [allocInodeIn, readGroupDesc_eq h hgl, readBlock_eq h.healthy]
    split
    · rename_i bit hbit
      right
      obtain ⟨hlt, hrange, hfree⟩ := firstFreeBit_spec hbit
      have hnums := h.fits.inodeNumbers
      have hmul := Nat.mul_le_mul_right s.mount.inodesPerGroup (Nat.succ_le_of_lt hgl)
      rw [Nat.succ_mul] at hmul
      have hnum : u32 (g * s.mount.inodesPerGroup + bit + 1) =
          g * s.mount.inodesPerGroup + bit + 1 := u32_of_lt (by omega)
      simp only [hnum, decide_eq_true_eq] at hrange ⊢
      have hn : ValidInode s.mount (g * s.mount.inodesPerGroup + bit + 1) := ⟨by omega, hrange⟩
      obtain ⟨hdiv, hmod⟩ := group_bit (g := g) hlt
      refine ⟨_, hn, ?_, ?_⟩
      · simp only [Ext2.view, Ext2Layout.view, Nat.add_sub_cancel, hdiv, hmod, hfree,
          Bool.and_false]
      · simp only [markInode, Nat.add_sub_cancel, hdiv, hmod]
    · exact ih fun g' hg' => hg g' (List.mem_cons_of_mem _ hg')

lemma allocInode_marks : allocInode s = (s, none) ∨
      ∃ n, ValidInode s.mount n ∧ (s.view L).inodeUsed n = false ∧
        allocInode s = (markInode L s n true, some n) :=
  allocInodeIn_marks h fun _ hg => List.mem_range.mp hg

lemma allocInode_spec : allocInode s = (s, none) ∨
      ∃ n, (allocInode s).2 = some n ∧ ValidInode s.mount n ∧
        (s.view L).inodeUsed n = false ∧ s.Becomes (allocInode s).1 L
          { s.view L with inodeUsed := update (s.view L).inodeUsed n true } := by
  refine (allocInode_marks h).imp_right ?_
  rintro ⟨n, hn, hfree, heq⟩
  rw [heq]
  exact ⟨n, rfl, hn, hfree, setInodeBit_spec h hn true⟩

lemma freeInode_marks {n : Nat} (hn : ValidInode s.mount n) :
    freeInode s n = markInode L s n false := by
  have hgl := h.fits.inode_lt_groupDescCount hn
  simp only [freeInode, inodeGroupAndOffset_of_valid hn, readGroupDesc_eq h hgl,
    readBlock_eq h.healthy]
  rfl

lemma freeInode_spec {n : Nat} (hn : ValidInode s.mount n) : s.Becomes (freeInode s n) L
      { s.view L with inodeUsed := update (s.view L).inodeUsed n false } := by
  rw [freeInode_marks h hn]
  exact setInodeBit_spec h hn false

lemma freeBlock_spec {x : Nat} (hx : ValidBlock s.mount x) : s.Becomes (freeBlock s x) L
      { s.view L with blockUsed := update (s.view L).blockUsed x false } := by
  have hle := h.fits.blocks
  have hrel : sub32 x s.mount.firstDataBlock = x - s.mount.firstDataBlock :=
    sub32_of_le hx.1 (by have := hx.2; omega)
  have hgl : (x - s.mount.firstDataBlock) / s.mount.blocksPerGroup < s.mount.groupDescCount :=
    h.fits.lt_groupDescCount (by have := hx.2; omega)
  simp only [freeBlock, hrel, if_neg (Nat.not_le.mpr hgl), readGroupDesc_eq h hgl,
    readBlock_eq h.healthy]
  exact setBlockBit_spec h hx false

omit h in
lemma ValidInode.not_badNum (hL : L.Fits s.mount) {n : Nat} (hn : ValidInode s.mount n) :
    ¬ BadNum n := by
  have := hL.totalInodes.2
  obtain ⟨h₁, h₂⟩ := hn
  unfold BadNum
  omega

lemma allocGoodBlock_spec : ((allocGoodBlock s).2 = none ∧ (allocGoodBlock s).1 = s) ∨
    ((allocGoodBlock s).2 = none ∧ ∃ x, ValidBlock s.mount x ∧ s.Becomes (allocGoodBlock s).1 L
        { s.view L with blockUsed := update (s.view L).blockUsed x true }) ∨
    ∃ x, (allocGoodBlock s).2 = some x ∧ ¬ BadNum x ∧ ValidBlock s.mount x ∧
      (s.view L).blockUsed x = false ∧ s.Becomes (allocGoodBlock s).1 L
        { s.view L with blockUsed := update (s.view L).blockUsed x true } := by
  unfold allocGoodBlock
  rcases allocBlock_spec h with hnone | ⟨x, hx, hvalid, hfree, hbec⟩
  · left
    rw [hnone]
    exact ⟨rfl, rfl⟩
  · dsimp only
    rw [hx]
    dsimp only
    split_ifs with hbad
    · exact Or.inr (Or.inl ⟨rfl, x, hvalid, hbec⟩)
    · exact Or.inr (Or.inr ⟨x, rfl, hbad, hvalid, hfree, hbec⟩)

end

end NeuroSpark
