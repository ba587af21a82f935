import NeuroSpark.Lib.FirstFit
import NeuroSpark.Ext2.Listing

/-!
# The free blocks of an image

The allocators take the least free number. Seen as a list in increasing order, the free blocks are
handed out from the front, so the blocks that a call gets are known before it is made.
-/

namespace NeuroSpark

open Function (update update_self update_of_ne)
open Word Ext2View

variable {L : Ext2Layout} {n d : Nat} {s s' : Ext2} {i : Ext2Inode} {v : Ext2View}
  {m : Ext2MountState}

/-- The free blocks in increasing order. -/
def freeBlocks (m : Ext2MountState) (v : Ext2View) : List Nat :=
  (List.range m.totalBlocks).filter fun b => decide (m.firstDataBlock ≤ b) && !v.blockUsed b

/-- The free inodes in increasing order. -/
def freeInodes (m : Ext2MountState) (v : Ext2View) : List Nat :=
  (List.range (m.totalInodes + 1)).filter fun n => decide (1 ≤ n) && !v.inodeUsed n

lemma mem_freeBlocks {b : Nat} : b ∈ freeBlocks m v ↔ ValidBlock m b ∧ v.blockUsed b = false := by
  simp only [freeBlocks, List.mem_filter, List.mem_range, Bool.and_eq_true, decide_eq_true_eq,
    Bool.not_eq_true', ValidBlock]
  tauto

lemma mem_freeInodes : n ∈ freeInodes m v ↔ ValidInode m n ∧ v.inodeUsed n = false := by
  simp only [freeInodes, List.mem_filter, List.mem_range, Nat.lt_succ_iff, Bool.and_eq_true,
    decide_eq_true_eq, Bool.not_eq_true', ValidInode]
  tauto

lemma head?_filter_range {k : Nat} {p : Nat → Bool} {x : Nat}
    (h : IsLeast {y | y < k ∧ p y = true} x) : ((List.range k).filter p).head? = some x := by
  rw [List.head?_filter, List.find?_range_eq_some]
  obtain ⟨⟨hlt, hp⟩, hleast⟩ := h
  refine ⟨hp, List.mem_range.mpr hlt, fun j hj => ?_⟩
  rw [Bool.not_eq_true']
  by_contra hc
  rw [Bool.not_eq_false] at hc
  exact absurd (hleast ⟨hj.trans hlt, hc⟩) (Nat.not_le.mpr hj)

lemma filter_range_take {k : Nat} {p q : Nat → Bool} {x : Nat} {l : List Nat}
    (h : (List.range k).filter p = x :: l) (hq : ∀ y, q y = (p y && decide (y ≠ x))) :
    (List.range k).filter q = l := by
  have hfilter : (List.range k).filter q = ((List.range k).filter p).filter fun y => y ≠ x := by
    rw [List.filter_filter]
    apply List.filter_congr
    intro y _
    rw [hq, Bool.and_comm]
  have hnodup : (x :: l).Nodup := h ▸ List.nodup_range.filter p
  rw [hfilter, h, List.filter_cons_of_neg (by simp)]
  rw [List.filter_eq_self]
  intro y hy
  rw [decide_eq_true_eq]
  rintro rfl
  exact (List.nodup_cons.mp hnodup).1 hy

lemma freeBlocks_take {x : Nat} {l : List Nat} (h : freeBlocks m v = x :: l) :
    freeBlocks m { v with blockUsed := update v.blockUsed x true } = l := by
  apply filter_range_take h
  intro y
  by_cases hy : y = x
  · subst hy
    simp
  · simp [hy]

/-! ### The allocators -/

section

variable (hs : s.HasLayout L)
include hs

/-- The groups from `g` on are scanned for the least free block. -/
lemma allocBlockIn_first (k : Nat) {g : Nat} (hg : g + k ≤ s.mount.groupDescCount)
    (h : FirstFit.UsedBefore s.mount.firstDataBlock s.mount.totalBlocks s.mount.blocksPerGroup
      (s.view L).blockUsed g) :
    (∃ x, (allocBlockIn s (List.range' g k)).2 = some x ∧ IsLeast (FirstFit.freeSet
      s.mount.firstDataBlock s.mount.totalBlocks (s.view L).blockUsed) x) ∨
    (allocBlockIn s (List.range' g k) = (s, none) ∧
      FirstFit.UsedBefore s.mount.firstDataBlock s.mount.totalBlocks s.mount.blocksPerGroup
        (s.view L).blockUsed (g + k)) := by
  induction k generalizing g with
  | zero => exact Or.inr ⟨rfl, h⟩
  | succ k ih =>
    have hlt : g < s.mount.groupDescCount := by omega
    have hmul := hs.fits.group_mul_lt hlt
    have hbpg := hs.fits.blocksPerGroup.2
    have hfdb := hs.fits.firstDataBlock
    have hle := hs.fits.blocks
    have hsum : ∀ bit, g * s.mount.blocksPerGroup + bit + s.mount.firstDataBlock =
        s.mount.firstDataBlock + g * s.mount.blocksPerGroup + bit := fun bit => by omega
    -- the scan of the bitmap is the search for a free slot of the group
    have hscan : firstFreeBit (s.blockAt (L.blockBitmap g)) s.mount.blocksPerGroup
        (fun bit => decide (u32 (s.mount.firstDataBlock + g * s.mount.blocksPerGroup + bit) <
          s.mount.totalBlocks)) =
        FirstFit.freeSlot s.mount.firstDataBlock s.mount.totalBlocks s.mount.blocksPerGroup
          (s.view L).blockUsed g := by
      rw [firstFreeBit, FirstFit.takeWhile_range_u32 (by omega) (by omega), FirstFit.freeSlot]
      apply FirstFit.find?_congr
      intro bit hbit
      rw [List.mem_range] at hbit
      obtain ⟨hdiv, hmod⟩ := group_bit (g := g) (show bit < s.mount.blocksPerGroup by omega)
      have hvalid : ValidBlock s.mount
          (s.mount.firstDataBlock + g * s.mount.blocksPerGroup + bit) := ⟨by omega, by omega⟩
      have hrel : s.mount.firstDataBlock + g * s.mount.blocksPerGroup + bit -
          s.mount.firstDataBlock = g * s.mount.blocksPerGroup + bit := by omega
      simp only [Ext2.view, Ext2Layout.view, hrel, hdiv, hmod, hvalid, decide_true, Bool.true_and]
    rw [List.range'_succ]
    simp only [allocBlockIn, readGroupDesc_eq hs hlt, readBlock_eq hs.healthy, hsum]
    cases hslot : FirstFit.freeSlot s.mount.firstDataBlock s.mount.totalBlocks
        s.mount.blocksPerGroup (s.view L).blockUsed g with
    | some bit =>
      rw [hscan.trans hslot]
      left
      obtain ⟨hbit, hleast⟩ := h.isLeast hslot
      refine ⟨_, rfl, ?_⟩
      rwa [u32_of_lt (by omega)]
    | none =>
      rw [hscan.trans hslot]
      have hrest := ih (g := g + 1) (by omega) (h.succ hslot)
      rwa [Nat.add_assoc, Nat.add_comm 1 k] at hrest

lemma allocBlock_cases : (freeBlocks s.mount (s.view L) = [] ∧ allocBlock s = (s, none)) ∨
      ∃ x l, freeBlocks s.mount (s.view L) = x :: l ∧ (allocBlock s).2 = some x ∧
        ValidBlock s.mount x ∧ (s.view L).blockUsed x = false ∧ s.Becomes (allocBlock s).1 L
          { s.view L with blockUsed := update (s.view L).blockUsed x true } ∧
        freeBlocks (allocBlock s).1.mount ((allocBlock s).1.view L) = l := by
  rcases allocBlockIn_first hs s.mount.groupDescCount (g := 0) (by omega)
    FirstFit.usedBefore_zero with ⟨x, hx, hleast⟩ | ⟨hnone, hused⟩
  · right
    rw [← List.range_eq_range'] at hx
    rcases allocBlock_spec hs with hnone | ⟨y, hy, hvalid, hfree, hb⟩
    · rw [allocBlock] at hnone
      rw [hnone] at hx
      cases hx
    · obtain rfl : x = y := Option.some.inj (hx.symm.trans hy)
      have hhead : (freeBlocks s.mount (s.view L)).head? = some x := by
        apply head?_filter_range
        refine ⟨⟨hvalid.2, by simp [hvalid.1, hfree]⟩, ?_⟩
        rintro z ⟨hz, hp⟩
        simp only [Bool.and_eq_true, decide_eq_true_eq, Bool.not_eq_true'] at hp
        exact hleast.2 ⟨hp.1, hz, hp.2⟩
      obtain ⟨l, hl⟩ := List.head?_eq_some_iff.mp hhead
      refine ⟨x, l, hl, hx, hvalid, hfree, hb, ?_⟩
      rw [hb.mount, hb.view]
      exact freeBlocks_take hl
  · left
    rw [← List.range_eq_range'] at hnone
    refine ⟨List.eq_nil_iff_forall_not_mem.mpr fun x hx => ?_, hnone⟩
    obtain ⟨hvalid, hfree⟩ := mem_freeBlocks.mp hx
    have hcover : s.mount.totalBlocks ≤ s.mount.firstDataBlock +
        (0 + s.mount.groupDescCount) * s.mount.blocksPerGroup := by
      have hpos := hs.fits.blocksPerGroup.1
      have hdiv := Nat.div_add_mod (s.mount.totalBlocks + s.mount.blocksPerGroup - 1)
        s.mount.blocksPerGroup
      have hmod := Nat.mod_lt (s.mount.totalBlocks + s.mount.blocksPerGroup - 1) hpos
      rw [← hs.fits.groupDescCount, Nat.mul_comm] at hdiv
      rw [Nat.zero_add]
      omega
    rw [hused.all hcover hvalid.1 hvalid.2] at hfree
    cases hfree

lemma allocInodeIn_none (k : Nat) {g : Nat} (hg : g + k ≤ s.mount.groupDescCount)
    (h : FirstFit.UsedBefore 1 (s.mount.totalInodes + 1) s.mount.inodesPerGroup
      (s.view L).inodeUsed g)
    (hnone : (allocInodeIn s (List.range' g k)).2 = none) :
    FirstFit.UsedBefore 1 (s.mount.totalInodes + 1) s.mount.inodesPerGroup
      (s.view L).inodeUsed (g + k) := by
  induction k generalizing g with
  | zero => exact h
  | succ k ih =>
    have hlt : g < s.mount.groupDescCount := by omega
    have hnums := hs.fits.inodeNumbers
    have htotal := hs.fits.totalInodes.2
    have hmul := Nat.mul_le_mul_right s.mount.inodesPerGroup (Nat.succ_le_of_lt hlt)
    rw [Nat.succ_mul] at hmul
    have hipg := hs.fits.inodesPerGroup.1
    have hsum : ∀ bit, g * s.mount.inodesPerGroup + bit + 1 =
        1 + g * s.mount.inodesPerGroup + bit := fun bit => by omega
    have hscan : firstFreeBit (s.blockAt (L.inodeBitmap g)) s.mount.inodesPerGroup
        (fun bit => decide (u32 (1 + g * s.mount.inodesPerGroup + bit) ≤ s.mount.totalInodes)) =
        FirstFit.freeSlot 1 (s.mount.totalInodes + 1) s.mount.inodesPerGroup
          (s.view L).inodeUsed g := by
      simp only [← Nat.lt_succ_iff]
      rw [firstFreeBit, FirstFit.takeWhile_range_u32 (by omega) (by omega), FirstFit.freeSlot]
      apply FirstFit.find?_congr
      intro bit hbit
      rw [List.mem_range] at hbit
      obtain ⟨hdiv, hmod⟩ := group_bit (g := g) (show bit < s.mount.inodesPerGroup by omega)
      have hvalid : ValidInode s.mount (1 + g * s.mount.inodesPerGroup + bit) :=
        ⟨by omega, by omega⟩
      have hrel : 1 + g * s.mount.inodesPerGroup + bit - 1 = g * s.mount.inodesPerGroup + bit := by
        omega
      simp only [Ext2.view, Ext2Layout.view, hrel, hdiv, hmod, hvalid, decide_true, Bool.true_and]
    rw [List.range'_succ] at hnone
    simp only [allocInodeIn, readGroupDesc_eq hs hlt, readBlock_eq hs.healthy, hsum] at hnone
    cases hslot : FirstFit.freeSlot 1 (s.mount.totalInodes + 1) s.mount.inodesPerGroup
        (s.view L).inodeUsed g with
    | some bit =>
      rw [hscan.trans hslot] at hnone
      cases hnone
    | none =>
      rw [hscan.trans hslot] at hnone
      have hrest := ih (g := g + 1) (by omega) (h.succ hslot) hnone
      rwa [Nat.add_assoc, Nat.add_comm 1 k] at hrest

lemma allocInode_eq_none_iff : (allocInode s).2 = none ↔ freeInodes s.mount (s.view L) = [] := by
  constructor
  · intro hnone
    rw [allocInode, List.range_eq_range'] at hnone
    have hused := allocInodeIn_none hs s.mount.groupDescCount (by omega) FirstFit.usedBefore_zero
      hnone
    refine List.eq_nil_iff_forall_not_mem.mpr fun n hn => ?_
    obtain ⟨⟨hge, hle⟩, hfree⟩ := mem_freeInodes.mp hn
    have hcover : s.mount.totalInodes + 1 ≤
        1 + (0 + s.mount.groupDescCount) * s.mount.inodesPerGroup := by
      have hle := hs.fits.totalInodes.1
      rw [Nat.zero_add]
      omega
    rw [hused.all hcover hge (Nat.lt_succ_of_le hle)] at hfree
    cases hfree
  · intro hnil
    rcases allocInode_spec hs with hnone | ⟨n, -, hvalid, hfree, -⟩
    · rw [hnone]
    · have hmem := mem_freeInodes.mpr ⟨hvalid, hfree⟩
      rw [hnil] at hmem
      cases hmem

lemma validBlock_not_badNum (h1 : 1 ≤ s.mount.firstDataBlock) {x : Nat}
    (hx : ValidBlock s.mount x) : ¬ BadNum x := by
  have hle := hs.fits.blocks
  obtain ⟨h₁, h₂⟩ := hx
  unfold BadNum
  omega

lemma allocGoodBlock_eq (h1 : 1 ≤ s.mount.firstDataBlock) : allocGoodBlock s = allocBlock s := by
  unfold allocGoodBlock
  rcases allocBlock_cases hs with ⟨-, hnone⟩ | ⟨x, -, -, hx, hvalid, -⟩
  · rw [hnone]
  · dsimp only
    rw [hx]
    dsimp only
    rw [if_neg (validBlock_not_badNum hs h1 hvalid)]
    exact Prod.ext rfl hx.symm

end

/-! ### A block for an inode -/

/-- What a call for block `index` of an inode does, with `create` set. -/
inductive GetsBlock (L : Ext2Layout) (s : Ext2) (i : Ext2Inode) (index : Nat) :
    Ext2 × Ext2Inode × Nat → Prop where
  /-- The inode has the block. -/
  | present (h : fileBlock (s.view L) i index ≠ 0) :
      GetsBlock L s i index (s, i, fileBlock (s.view L) i index)
  /-- The file would become too long, or no block is free. -/
  | fails (h : fileBlock (s.view L) i index = 0)
      (hno : 268 ≤ index ∨ freeBlocks s.mount (s.view L) = []) : GetsBlock L s i index (s, i, 0)
  /-- A pointer of the inode takes the first free block. -/
  | direct {x : Nat} {l : List Nat} {t : Ext2} (h : fileBlock (s.view L) i index = 0)
      (hlt : index < 12) (hfree : freeBlocks s.mount (s.view L) = x :: l)
      (ht : s.Becomes t L
        { s.view L with blockUsed := Function.update (s.view L).blockUsed x true }) :
      GetsBlock L s i index (t, i.setBlock index x, x)
  /-- An entry of the indirect block takes the first free block. -/
  | entry {x : Nat} {l : List Nat} {t : Ext2} (h : fileBlock (s.view L) i index = 0)
      (hge : 12 ≤ index) (hlt : index < 268) (h12 : i.block 12 ≠ 0)
      (hfree : freeBlocks s.mount (s.view L) = x :: l)
      (ht : s.Becomes t L
        { s.view L with
          blockUsed := Function.update (s.view L).blockUsed x true
          data := Function.update (s.view L).data (i.block 12)
            (((s.view L).data (i.block 12)).setLe32 (4 * (index - 12)) x) }) :
      GetsBlock L s i index (t, i, x)
  /-- The first free block becomes the indirect block, and there is no other. -/
  | lastIndirect {x : Nat} {t : Ext2} (h : fileBlock (s.view L) i index = 0) (hge : 12 ≤ index)
      (hlt : index < 268) (h12 : i.block 12 = 0) (hfree : freeBlocks s.mount (s.view L) = [x])
      (ht : s.Becomes t L
        { s.view L with
          blockUsed := Function.update (s.view L).blockUsed x true
          data := Function.update (s.view L).data x Bytes.zero }) :
      GetsBlock L s i index (t, i.setBlock 12 x, 0)
  /-- The first free block becomes the indirect block and the second goes into it. -/
  | indirect {x y : Nat} {l : List Nat} {t : Ext2} (h : fileBlock (s.view L) i index = 0)
      (hge : 12 ≤ index) (hlt : index < 268) (h12 : i.block 12 = 0)
      (hfree : freeBlocks s.mount (s.view L) = x :: y :: l)
      (ht : s.Becomes t L
        { s.view L with
          blockUsed := Function.update (Function.update (s.view L).blockUsed x true) y true
          data := Function.update (s.view L).data x
            (Bytes.setLe32 Bytes.zero (4 * (index - 12)) y) }) :
      GetsBlock L s i index (t, i.setBlock 12 x, y)

lemma fileBlock_direct {v : Ext2View} {index : Nat} (h : index < 12) :
    fileBlock v i index = i.block index := by
  rw [fileBlock, fileSlot, dif_pos h]
  rfl

lemma fileBlock_indirect {v : Ext2View} {index : Nat} (hge : 12 ≤ index) (hlt : index < 268) :
    fileBlock v i index =
      if i.block 12 = 0 then 0 else (v.data (i.block 12)).le32 (4 * (index - 12)) := by
  rw [fileBlock, fileSlot, dif_neg (by omega), dif_pos (by omega)]
  rfl

section

variable (hk : Working L n s i) (h1 : 1 ≤ s.mount.firstDataBlock)
include hk h1

lemma indirectGetBlock_cases (h12 : i.block 12 ≠ 0) {j : Nat}
    (hzero : ((s.view L).data (i.block 12)).le32 (4 * j) = 0) :
    (freeBlocks s.mount (s.view L) = [] ∧ indirectGetBlock s (i.block 12) j true = (s, 0)) ∨
      ∃ x l t, freeBlocks s.mount (s.view L) = x :: l ∧
        indirectGetBlock s (i.block 12) j true = (t, x) ∧ s.Becomes t L
          { s.view L with
            blockUsed := update (s.view L).blockUsed x true
            data := update (s.view L).data (i.block 12)
              (((s.view L).data (i.block 12)).setLe32 (4 * j) x) } := by
  obtain ⟨hused, hmeta⟩ := slot_dataBlock hk (.ptr 12) h12
  have hlt := (blockUsed_valid hused).2
  have hread : readBlock s (i.block 12) = some ((s.view L).data (i.block 12)) :=
    readBlock_data hk.layout hlt hmeta
  simp only [indirectGetBlock, hread, hzero, and_true, if_true, allocGoodBlock_eq hk.layout h1]
  rcases allocBlock_cases hk.layout with ⟨hfree, hnone⟩ | ⟨x, l, hfree, hx, -, -, hb, -⟩
  · left
    rw [hnone]
    exact ⟨hfree, rfl⟩
  · right
    rw [hx]
    refine ⟨x, l, _, hfree, rfl, ?_⟩
    have hw := hb.trans (writeBlock_data hb.layout (by rw [hb.mount]; exact hlt)
      (by rw [hb.mount]; exact hmeta) (((s.view L).data (i.block 12)).setLe32 (4 * j) x))
    rw [hb.view] at hw
    exact hw

lemma inodeGetBlock_getsBlock (index : Nat) :
    GetsBlock L s i index (inodeGetBlock s i index true) := by
  by_cases hne : fileBlock (s.view L) i index ≠ 0
  · rw [inodeGetBlock_present hk hne]
    exact .present hne
  rw [not_not] at hne
  have hgood := allocGoodBlock_eq hk.layout h1
  unfold inodeGetBlock
  by_cases hlt : index < 12
  · have hzero : i.block index = 0 := by rwa [fileBlock_direct hlt] at hne
    simp only [if_pos hlt, hzero, and_true, if_true, hgood]
    rcases allocBlock_cases hk.layout with ⟨hfree, hnone⟩ | ⟨x, l, hfree, hx, -, -, hb, -⟩
    · rw [hnone]
      exact .fails hne (Or.inr hfree)
    · rw [hx]
      exact .direct hne hlt hfree hb
  · have hptrs : inodePtrsPerBlock = 256 := rfl
    rw [if_neg hlt]
    by_cases hbig : 268 ≤ index
    · rw [if_pos (by omega)]
      exact .fails hne (Or.inl hbig)
    · rw [if_neg (by omega)]
      by_cases h12 : i.block 12 = 0
      · simp only [h12, if_true, Bool.not_true, Bool.false_eq_true, if_false, hgood]
        rcases allocBlock_cases hk.layout with ⟨hfree, hnone⟩ |
          ⟨x, l, hfree, hx, hvalid, hxfree, hb, hrest⟩
        · rw [hnone]
          exact .fails hne (Or.inr hfree)
        · rw [hx]
          dsimp only
          -- the new indirect block is empty
          have hbad := validBlock_not_badNum hk.layout h1 hvalid
          obtain ⟨hext, hind⟩ := extends_indirect (S := fun _ => False) (W := fun _ => False) hk
            h12 hvalid hbad hxfree hb
          have hkx := hext.working hk
          have hmeta : ¬ L.IsMeta s.mount x := fun hm =>
            Bool.false_ne_true (hxfree.symm.trans (hk.owned.metaUsed x hm))
          have hw := hb.trans (writeBlock_data hb.layout (by rw [hb.mount]; exact hvalid.2)
            (by rw [hb.mount]; exact hmeta) Bytes.zero)
          rw [hb.view] at hw
          have hfree' : freeBlocks (writeBlock (allocBlock s).1 x Bytes.zero).mount
              ((writeBlock (allocBlock s).1 x Bytes.zero).view L) = l := by
            rw [← hrest, hw.view, hb.view]
            rfl
          have hzero : (((writeBlock (allocBlock s).1 x Bytes.zero).view L).data x).le32
              (4 * (index - 12)) = 0 := by
            rw [hw.view]
            simp [Bytes.le32, Bytes.slice, Le.value]
          have h12' : (i.setBlock 12 x).block 12 ≠ 0 := by
            rw [hind]
            exact fun h0 => hbad (Or.inl h0)
          have h1' : 1 ≤ (writeBlock (allocBlock s).1 x Bytes.zero).mount.firstDataBlock := by
            rw [hw.mount]
            exact h1
          have hzero' : (((writeBlock (allocBlock s).1 x Bytes.zero).view L).data
              ((i.setBlock 12 x).block 12)).le32 (4 * (index - 12)) = 0 := by
            rw [hind]
            exact hzero
          have hentry := indirectGetBlock_cases hkx h1' h12' hzero'
          rw [hind, hfree'] at hentry
          rcases hentry with ⟨rfl, hnone⟩ | ⟨y, l', t, rfl, hy, hbt⟩
          · rw [hnone]
            exact .lastIndirect hne (by omega) (by omega) h12 hfree hw
          · rw [hy]
            refine .indirect hne (by omega) (by omega) h12 hfree (hw.trans (hbt.cast ?_))
            rw [hw.view]
            simp
      · have hzero : ((s.view L).data (i.block 12)).le32 (4 * (index - 12)) = 0 := by
          rwa [fileBlock_indirect (by omega) (by omega), if_neg h12] at hne
        rw [if_neg h12]
        rcases indirectGetBlock_cases hk h1 h12 hzero with ⟨hfree, hnone⟩ | ⟨x, l, t, hfree, hx, hb⟩
        · rw [hnone]
          exact .fails hne (Or.inr hfree)
        · rw [hx]
          exact .entry hne (by omega) (by omega) h12 hfree hb

end

/-! ### What such a call leaves alone -/

/-- The block that a call for block `index` of an inode gets after the first `taken` free blocks
are gone. -/
def newBlock (m : Ext2MountState) (v : Ext2View) (i : Ext2Inode) (index taken : Nat) : Option Nat :=
  if fileBlock v i index ≠ 0 then some (fileBlock v i index)
  else (freeBlocks m v)[taken + if 12 ≤ index ∧ i.block 12 = 0 then 1 else 0]?

lemma freeBlocks_nodup (m : Ext2MountState) (v : Ext2View) : (freeBlocks m v).Nodup :=
  List.nodup_range.filter _

namespace GetsBlock

variable {index : Nat} {g : Ext2 × Ext2Inode × Nat}

lemma number (h : GetsBlock L s i index g) (hgood : ¬ BadNum g.2.2) :
    newBlock s.mount (s.view L) i index 0 = some g.2.2 := by
  cases h with
  | present h => rw [newBlock, if_pos h]
  | fails h hno => exact absurd (Or.inl rfl) hgood
  | direct h hlt hfree ht =>
    rw [newBlock, if_neg (not_not.mpr h), hfree, if_neg fun hc => absurd hc.1 (by omega)]
    rfl
  | entry h hge hlt h12 hfree ht =>
    rw [newBlock, if_neg (not_not.mpr h), hfree, if_neg fun hc => h12 hc.2]
    rfl
  | lastIndirect h hge hlt h12 hfree ht => exact absurd (Or.inl rfl) hgood
  | indirect h hge hlt h12 hfree ht =>
    rw [newBlock, if_neg (not_not.mpr h), hfree, if_pos ⟨hge, h12⟩]
    rfl

lemma stale (h : GetsBlock L s i index g) (hk : Working L n s i) (hgood : ¬ BadNum g.2.2) :
    (g.1.view L).data g.2.2 = (s.view L).data g.2.2 := by
  cases h with
  | present h => rfl
  | fails h hno => rfl
  | direct h hlt hfree ht => rw [ht.view]
  | @entry x l t h hge hlt h12 hfree ht =>
    rw [ht.view]
    apply update_of_ne
    rintro rfl
    have hx : i.block 12 ∈ freeBlocks s.mount (s.view L) := hfree ▸ List.mem_cons_self ..
    have hused := (slot_dataBlock hk (.ptr 12) h12).1
    exact Bool.false_ne_true ((mem_freeBlocks.mp hx).2.symm.trans hused)
  | lastIndirect h hge hlt h12 hfree ht => exact absurd (Or.inl rfl) hgood
  | @indirect x y l t h hge hlt h12 hfree ht =>
    rw [ht.view]
    have hnodup := freeBlocks_nodup s.mount (s.view L)
    rw [hfree] at hnodup
    have hne : y ≠ x := fun he => (List.nodup_cons.mp hnodup).1 (he ▸ List.mem_cons_self ..)
    exact update_of_ne hne _ _

/-- Every block that was taken is in a slot of the inode in memory. -/
lemma accounted (h : GetsBlock L s i index g) (hs : s.HasLayout L) (h1 : 1 ≤ s.mount.firstDataBlock)
    {p : Nat} (hp : (g.1.view L).blockUsed p = true) :
    (s.view L).blockUsed p = true ∨ ∃ sl, (g.1.view L).slot g.2.1 sl = p := by
  have hbound : ∀ x ∈ freeBlocks s.mount (s.view L), x < 4294967296 ∧ x ≠ 0 := by
    intro x hx
    have hle := hs.fits.blocks
    obtain ⟨⟨h₁, h₂⟩, -⟩ := mem_freeBlocks.mp hx
    omega
  have htake : ∀ {bu : Nat → Bool} {x : Nat}, update bu x true p = true →
      bu p = true ∨ p = x := by
    intro bu x hx
    by_cases hpx : p = x
    · exact Or.inr hpx
    · rw [update_of_ne hpx] at hx
      exact Or.inl hx
  cases h with
  | present | fails => exact Or.inl hp
  | direct h hlt hfree ht =>
    have hx := (hbound _ (hfree ▸ List.mem_cons_self ..)).1
    rw [ht.view] at hp ⊢
    refine (htake hp).imp_right fun he => ⟨.ptr ⟨index, by omega⟩, ?_⟩
    rw [he]
    exact Ext2Inode.block_setBlock_same i (by omega) hx
  | entry h hge hlt h12 hfree ht =>
    have hx := (hbound _ (hfree ▸ List.mem_cons_self ..)).1
    rw [ht.view] at hp ⊢
    refine (htake hp).imp_right fun he => ⟨.entry ⟨index - 12, by omega⟩, ?_⟩
    simp only [slot, if_neg h12, update_self]
    rw [he, Bytes.le32_setLe32_same _ _ (by omega), Nat.mod_eq_of_lt hx]
  | lastIndirect h hge hlt h12 hfree ht =>
    have hx := (hbound _ (hfree ▸ List.mem_cons_self ..)).1
    rw [ht.view] at hp ⊢
    refine (htake hp).imp_right fun he => ⟨.ptr 12, ?_⟩
    rw [he]
    exact Ext2Inode.block_setBlock_same i (by omega) hx
  | @indirect x y l t h hge hlt h12 hfree ht =>
    obtain ⟨hx, hx0⟩ := hbound x (hfree ▸ List.mem_cons_self ..)
    have hy := (hbound y (hfree ▸ List.mem_cons_of_mem _ (List.mem_cons_self ..))).1
    have hind : (i.setBlock 12 x).block 12 = x := Ext2Inode.block_setBlock_same i (by omega) hx
    rw [ht.view] at hp ⊢
    rcases htake hp with hp | he
    · refine (htake hp).imp_right fun he => ⟨.ptr 12, ?_⟩
      rw [he]
      exact hind
    · refine Or.inr ⟨.entry ⟨index - 12, by omega⟩, ?_⟩
      simp only [slot, hind, if_neg hx0, update_self]
      rw [he, Bytes.le32_setLe32_same _ _ (by omega), Nat.mod_eq_of_lt hy]

end GetsBlock

end NeuroSpark
