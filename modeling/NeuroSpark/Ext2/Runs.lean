import NeuroSpark.Ext2.Entries

/-!
# Block ownership along runs

The operations of the driver as one machine. An image in order stays in order along every run whose
steps keep away from four slips of the driver: the pointers that a truncation above the direct
blocks leaves behind, the target of a symbolic link taken for block numbers, the blocks of an inode
that was freed while a name or a handle still refers to it, and the failed creation of a short
symbolic link.
-/

namespace NeuroSpark

open Word Ext2View

/-! ### The machine -/

/-- The calls of the driver. -/
inductive Ext2Op where
  | openPath (path : CString) (flags : UInt32)
  | read (h size : Nat)
  | write (h : Nat) (buf : List UInt8)
  | close (h : Nat)
  | lseek (h : Nat) (offset whence : Int)
  | ftruncate (h size : Nat)
  | truncatePath (path : CString) (size : Nat)
  | delete (path : CString)
  | rename (oldPath newPath : CString)
  | mkdir (path : CString) (mode : Nat)
  | rmdir (path : CString)
  | link (oldPath newPath : CString)
  | symlink (target linkPath : CString)

def ext2Step (s : Ext2) : Ext2Op → Ext2 × VfsResult
  | .openPath path flags => ext2Open s path flags
  | .read h size => ((ext2Read s h size).1, (ext2Read s h size).2.map List.length)
  | .write h buf => ext2Write s h buf
  | .close h => ext2Close s h
  | .lseek h offset whence => ext2Lseek s h offset whence
  | .ftruncate h size => ext2Ftruncate s h size
  | .truncatePath path size => ext2TruncatePath s path size
  | .delete path => ext2Delete s path
  | .rename oldPath newPath => ext2Rename s oldPath newPath
  | .mkdir path mode => ext2Mkdir s path mode
  | .rmdir path => ext2Rmdir s path
  | .link oldPath newPath => ext2Link s oldPath newPath
  | .symlink target linkPath => ext2Symlink s target linkPath

/-- The call keeps away from the slips: the inodes and directories it changes are live, an inode
whose blocks it changes has block pointers, a truncation above the direct blocks frees nothing, and
a short symbolic link finds its place. -/
def KeepsOwnership (s : Ext2) : Ext2Op → Prop
  | .openPath path flags => ∀ r, resolvePath s path = some r →
      (r.inode = 0 → flags &&& vfsOCreat ≠ 0 → ParentOk s r.parent) ∧
        (r.inode ≠ 0 → flags &&& vfsOTrunc ≠ 0 → TargetOk s r.inode)
  | .write h _ => s.IsOpen h → ext2Writable (s.handles h).flags → TargetOk s (s.handles h).inodeNum
  | .ftruncate h size => s.IsOpen h → TruncateOk s (s.handles h).inodeNum size
  | .truncatePath path size => ∀ r, resolvePath s path = some r → r.inode ≠ 0 →
      TruncateOk s r.inode size
  | .delete path => ∀ r, resolvePath s path = some r → r.inode ≠ 0 → r.parent ≠ 0 →
      TargetOk s r.inode ∧ ParentOk s r.parent
  | .rename oldPath newPath => ∀ old new, resolvePath s oldPath = some old →
      resolvePath s newPath = some new → old.inode ≠ 0 → old.parent ≠ 0 → new.parent ≠ 0 →
      new.inode = 0 → ParentOk s old.parent ∧ ParentOk s new.parent
  | .mkdir path _ => ∀ r, resolvePath s path = some r → r.inode = 0 → r.parent ≠ 0 →
      ParentOk s r.parent
  | .rmdir path => ∀ r, resolvePath s path = some r → r.inode ≠ 0 → r.parent ≠ 0 →
      ParentOk s r.inode ∧ ParentOk s r.parent
  | .link _ newPath => ∀ new, resolvePath s newPath = some new → new.parent ≠ 0 →
      ParentOk s new.parent
  | .symlink target linkPath => ∀ r, resolvePath s linkPath = some r → r.inode = 0 →
      r.parent ≠ 0 →
      ParentOk s r.parent ∧ (target.length ≤ inlineTargetMax → InlineEntryFits s target r)
  | _ => True

variable {L : Ext2Layout} {s : Ext2} {b : Nat}

lemma ext2Read_inOrder (hs : s.InOrder L) (h size : Nat) : (ext2Read s h size).1.InOrder L := by
  unfold ext2Read
  split
  · exact hs
  · dsimp only
    split
    · exact hs
    · split
      · exact hs
      · split
        · exact hs
        · split
          · exact hs
          · exact hs.setHandle _ _

lemma ext2Close_inOrder (hs : s.InOrder L) (h : Nat) : (ext2Close s h).1.InOrder L := by
  unfold ext2Close ext2HandleClose
  split
  · exact hs
  · split <;> exact hs.setHandle _ _

lemma ext2Lseek_inOrder (hs : s.InOrder L) (h : Nat) (offset whence : Int) :
    (ext2Lseek s h offset whence).1.InOrder L := by
  unfold ext2Lseek
  split
  · exact hs
  · dsimp only
    split
    · exact hs
    · split_ifs
      all_goals first | exact hs | exact hs.setHandle _ _

lemma ext2Open_inOrder (hs : s.InOrder L) {path : CString} {flags : UInt32}
    (hok : ∀ r, resolvePath s path = some r →
      (r.inode = 0 → flags &&& vfsOCreat ≠ 0 → ParentOk s r.parent) ∧
        (r.inode ≠ 0 → flags &&& vfsOTrunc ≠ 0 → TargetOk s r.inode)) :
    (ext2Open s path flags).1.InOrder L := by
  unfold ext2Open
  split
  · exact hs
  · split
    · exact hs
    · rename_i r hr
      obtain ⟨hcreat, htrunc⟩ := hok r hr
      split
      · rename_i hnew
        split
        · exact hs
        · rename_i hflag
          obtain ⟨hio, hown⟩ := ext2Create_inOrder hs (hcreat hnew hflag) r.leaf
          dsimp only
          split
          · exact hio
          · rename_i n hn
            exact ext2OpenInode_inOrder hio fun _ _ _ => hown n hn
      · rename_i hold
        exact ext2OpenInode_inOrder hs fun hflag i hi => ((htrunc hold hflag).owner hs.layout hi).1

lemma ext2Step_inOrder (s : Ext2) (op : Ext2Op) (hs : s.InOrder L) (hop : KeepsOwnership s op) :
    (ext2Step s op).1.InOrder L := by
  cases op with
  | openPath path flags => exact ext2Open_inOrder hs hop
  | read h size => exact ext2Read_inOrder hs h size
  | write h buf => exact ext2Write_inOrder hs buf hop
  | close h => exact ext2Close_inOrder hs h
  | lseek h offset whence => exact ext2Lseek_inOrder hs h offset whence
  | ftruncate h size => exact ext2Ftruncate_inOrder hs hop
  | truncatePath path size => exact ext2TruncatePath_inOrder hs hop
  | delete path => exact ext2Delete_inOrder hs hop
  | rename oldPath newPath => exact ext2Rename_inOrder hs hop
  | mkdir path mode => exact ext2Mkdir_inOrder hs mode hop
  | rmdir path => exact ext2Rmdir_inOrder hs hop
  | link oldPath newPath => exact ext2Link_inOrder hs hop
  | symlink target linkPath => exact ext2Symlink_inOrder hs hop

lemma Ext2.InOrder.allocBlock_not_held (hs : s.InOrder L) (hb : (allocBlock s).2 = some b) (n : Nat)
    (sl : PtrSlot) : (s.view L).held n sl ≠ some b := by
  intro hheld
  have hused := (hs.owned.dataBlock hheld).1
  rcases allocBlock_spec hs.layout with hnone | ⟨x, hx, -, hfree, -⟩
  · rw [hnone] at hb
    cases hb
  · rw [hx, Option.some.injEq] at hb
    subst hb
    exact Bool.false_ne_true (hfree.symm.trans hused)

/-- Along a run that keeps away from the slips every block has one owner at most, and the allocator
hands out no block that a live inode holds. -/
theorem ext2_keeps_blockOwnership {ops : List Ext2Op} (hs : s.InOrder L)
    (hops : Machine.Runs KeepsOwnership ext2Step s ops) :
    (Machine.run ext2Step s ops).InOrder L ∧
      ∀ b, (allocBlock (Machine.run ext2Step s ops)).2 = some b →
        ∀ n sl, ((Machine.run ext2Step s ops).view L).held n sl ≠ some b := by
  have hrun : (Machine.run ext2Step s ops).InOrder L :=
    Machine.run_invariant (fun s op hs hop => ext2Step_inOrder s op hs hop) hs hops
  exact ⟨hrun, fun b hb => hrun.allocBlock_not_held hb⟩

/-! ### A sample image -/

/-- The inode of the root directory of the sample image. -/
def sampleRoot : Ext2Inode := (Ext2Inode.fresh 0x41ED 1024 2 2).setBlock 0 6

/-- A file of fourteen blocks; its indirect block is block 20. -/
def sampleFile : Ext2Inode :=
  (List.range 13).foldl (fun i k => i.setBlock k (8 + k)) (Ext2Inode.fresh 0x81A4 14336 1 28)

/-- An image of 64 blocks with eight inodes, of which the root directory and the file `/f` are in
use. -/
def sampleBlock : Nat → Ext2Block
  | 2 => ((Bytes.setLe32 Bytes.zero 0 3).setLe32 4 4).setLe32 8 5
  | 3 => Bytes.patch Bytes.zero 0 [255, 255, 255, 255, 255]
  | 4 => Bytes.patch Bytes.zero 0 [7]
  | 5 => (Bytes.patch Bytes.zero 128 (sampleRoot.slice 0 128)).patch 256 (sampleFile.slice 0 128)
  | 6 => splitEntry (newDirBlock 2 2) 12 3 ext2FtRegFile [102]
  | 20 => (Bytes.setLe32 Bytes.zero 0 21).setLe32 4 22
  | _ => Bytes.zero

def sample : Ext2 where
  dev := Device.ofSectors fun lba =>
    if lba % 2 = 0 then lowerHalf (sampleBlock (lba / 2)) else upperHalf (sampleBlock (lba / 2))
  mount := ⟨true, 0, 8, 8192, 128, 2, 1, 8, 64, 1⟩
  handles _ := ⟨true, 1, 3, 0, vfsORdwr⟩
  stack _ := 0

def sampleLayout : Ext2Layout := ⟨fun _ => 3, fun _ => 4, fun _ => 5⟩

lemma sample_blockAt (hb : b < 64) : sample.blockAt b = sampleBlock b := by
  have hlba : blockToLba sample.mount b = 2 * b ∧ u32 (blockToLba sample.mount b + 1) = 2 * b + 1 := by
    have h : blockToLba sample.mount b = 2 * b := by
      have h := blockToLba_eq (m := sample.mount) (by decide)
        (show b < sample.mount.totalBlocks from hb)
      rw [h]
      exact Nat.zero_add _
    rw [h]
    exact ⟨rfl, u32_of_lt (by omega)⟩
  have hdiv : (2 * b + 1) / 2 = b := by omega
  have hmod : ¬ (2 * b + 1) % 2 = 0 := by omega
  rw [Ext2.blockAt, hlba.2, hlba.1]
  simp only [sample, Device.ofSectors, Nat.mul_mod_right, if_true, if_neg hmod, hdiv,
    Nat.mul_div_cancel_left b (show 0 < 2 by decide), joinSectors_halves]

lemma sample_role {r : MetaRole} (h : r.Valid sample.mount) :
    r = .desc 0 ∨ r = .blockBitmap 0 ∨ r = .inodeBitmap 0 ∨ r = .inodeTable 0 0 := by
  cases r with
  | desc j =>
    obtain ⟨k, hk, rfl⟩ := h
    have hk : k < 1 := hk
    left
    rw [show k / 32 = 0 by omega]
  | blockBitmap k =>
    have h : 1 + k * 8192 < 64 := h
    simp only [MetaRole.blockBitmap.injEq, reduceCtorEq, false_or, or_false]
    omega
  | inodeBitmap k =>
    have h : k * 8 < 8 := h
    simp only [MetaRole.inodeBitmap.injEq, reduceCtorEq, false_or, or_false]
    omega
  | inodeTable k j =>
    obtain ⟨h₁, h₂⟩ : k * 8 < 8 ∧ j * 1024 < 8 * 128 := h
    simp only [MetaRole.inodeTable.injEq, reduceCtorEq, false_or]
    omega

lemma sample_isMeta (h : sampleLayout.IsMeta sample.mount b) : 2 ≤ b ∧ b ≤ 5 := by
  obtain ⟨r, hr, rfl⟩ := h
  rcases sample_role hr with rfl | rfl | rfl | rfl <;> decide

lemma sample_fits : sampleLayout.Fits sample.mount where
  blocksPerGroup := by decide
  inodesPerGroup := by decide
  inodeSize := by decide
  groupDescCount := by decide
  groupDescBlock := rfl
  firstDataBlock := by decide
  totalInodes := by decide
  inodeNumbers := by decide
  blocks := by decide
  lt_totalBlocks r hr := by
    rcases sample_role hr with rfl | rfl | rfl | rfl <;> decide
  injective r r' hr hr' := by
    rcases sample_role hr with rfl | rfl | rfl | rfl <;>
      rcases sample_role hr' with rfl | rfl | rfl | rfl <;> decide

/-- Who holds a block of the sample image. -/
def sampleOwner (p : Nat) : Option (Nat × PtrSlot) :=
  if p = 6 then some (2, .ptr 0)
  else if h : 8 ≤ p ∧ p ≤ 20 then some (3, .ptr ⟨p - 8, by omega⟩)
  else if p = 21 then some (3, .entry 0)
  else if p = 22 then some (3, .entry 1)
  else none

/-- What the sample image holds: its descriptor, bitmaps and block pointers. -/
structure SampleReads : Prop where
  desc : sample.descAt 0 = ⟨3, 4, 5⟩
  bits : ∀ b ∈ List.range 40, bitTest (sampleBlock 3) b = true
  live : ∀ i ∈ List.range 8, bitTest (sampleBlock 4) i = true → i < 3
  rootPtr : ∀ k : Fin 15, sampleRoot.block k ≠ 0 →
    sampleOwner (sampleRoot.block k) = some (2, .ptr k)
  rootIndirect : sampleRoot.block 12 = 0
  filePtr : ∀ k : Fin 15, sampleFile.block k ≠ 0 →
    sampleOwner (sampleFile.block k) = some (3, .ptr k)
  fileIndirect : sampleFile.block 12 = 20

lemma sample_reads : SampleReads where
  desc := by decide
  bits := by decide
  live := by decide
  rootPtr := by decide
  rootIndirect := by decide
  filePtr := by decide
  fileIndirect := by decide

lemma sample_hasLayout : sample.HasLayout sampleLayout where
  healthy := Device.healthy_ofSectors _
  fits := sample_fits
  desc k hk := by
    have hk : k < 1 := hk
    obtain rfl : k = 0 := by omega
    exact sample_reads.desc

lemma sample_live {n : Nat} (h : (sample.view sampleLayout).inodeUsed n = true) :
    n = 1 ∨ n = 2 ∨ n = 3 := by
  have hv : 1 ≤ n ∧ n ≤ 8 := inodeUsed_valid h
  simp only [Ext2.view, Ext2Layout.view, Bool.and_eq_true, decide_eq_true_eq] at h
  have hbit : bitTest (sample.blockAt 4) ((n - 1) % 8) = true := h.2
  rw [sample_blockAt (by decide), Nat.mod_eq_of_lt (by omega)] at hbit
  have hlt := sample_reads.live (n - 1) (List.mem_range.mpr (by omega)) hbit
  omega

lemma sample_inode_of_get {n : Nat} (hn : ValidInode sample.mount n) {i : Ext2Inode}
    (hi : ∀ k < 128, (sampleBlock 5).get (128 * (n - 1) + k) = i.get k) :
    (sample.view sampleLayout).inode n = i := by
  have hle : 1 ≤ n ∧ n ≤ 8 := hn
  have hoff : (n - 1) % 8 * 128 % 1024 = 128 * (n - 1) := by omega
  have hblock : 5 + (n - 1) % 8 * 128 / 1024 = 5 := by omega
  have htable : sampleLayout.inodeBlock sample.mount n = 5 := hblock
  simp only [Ext2.view, Ext2Layout.view, if_pos hn, htable, sample_blockAt (show 5 < 64 by decide)]
  apply Bytes.ext_get
  intro k hk
  rw [Bytes.get_ofFun _ hk, ← hi k hk, ← hoff]
  rfl

lemma sample_inode : (sample.view sampleLayout).inode 1 = Bytes.zero ∧
    (sample.view sampleLayout).inode 2 = sampleRoot ∧
    (sample.view sampleLayout).inode 3 = sampleFile := by
  refine ⟨sample_inode_of_get (by decide) fun k hk => ?_,
    sample_inode_of_get (by decide) fun k hk => ?_, sample_inode_of_get (by decide) fun k hk => ?_⟩
  · rw [sampleBlock, Bytes.get_patch_of_lt _ _ (by omega), Bytes.get_patch_of_lt _ _ (by omega),
      Bytes.get_zero, Bytes.get_zero]
  · rw [sampleBlock, Bytes.get_patch_of_lt _ _ (by omega),
      Bytes.get_patch_of_mem _ _ _ _ (by simpa using hk) (by omega), Bytes.getElem_slice, Nat.zero_add]
  · rw [sampleBlock, Bytes.get_patch_of_mem _ _ _ _ (by simpa using hk) (by omega),
      Bytes.getElem_slice, Nat.zero_add]

lemma sample_readFile : readInode sample 3 = some sampleFile := by
  rw [readInode_eq sample_hasLayout (by decide), sample_inode.2.2]

lemma sample_indirect : (sample.view sampleLayout).data 20 = sampleBlock 20 := by
  have hmeta : ¬ sampleLayout.IsMeta sample.mount 20 := fun h => by
    have := sample_isMeta h
    omega
  have h := readBlock_data sample_hasLayout (show 20 < sample.mount.totalBlocks by decide) hmeta
  rw [readBlock_eq sample_hasLayout.healthy, sample_blockAt (by decide)] at h
  exact (Option.some.inj h).symm

lemma sampleBlock_entry {j : Fin 256} (h : (sampleBlock 20).le32 (4 * j) ≠ 0) :
    sampleOwner ((sampleBlock 20).le32 (4 * j)) = some (3, .entry j) := by
  have hzero : ∀ off, (Bytes.zero : Ext2Block).le32 off = 0 := fun off => by
    simp [Bytes.le32, Bytes.slice, Le.value]
  by_cases h0 : j = 0
  · subst h0
    rfl
  · by_cases h1 : j = 1
    · subst h1
      rfl
    · have hj : 4 + 4 ≤ 4 * (j : Nat) := by omega
      have hsecond : (sampleBlock 20).le32 (4 * j) =
          (Bytes.setLe32 (Bytes.zero : Ext2Block) 0 21).le32 (4 * j) :=
        Bytes.le32_setLe32_disjoint _ _ (Or.inr hj)
      have hfirst : (Bytes.setLe32 (Bytes.zero : Ext2Block) 0 21).le32 (4 * j) = _ :=
        Bytes.le32_setLe32_disjoint _ _ (Or.inr (by omega))
      exact absurd (hsecond.trans (hfirst.trans (hzero _))) h

lemma sample_held {n p : Nat} {sl : PtrSlot}
    (h : (sample.view sampleLayout).held n sl = some p) : sampleOwner p = some (n, sl) := by
  obtain ⟨⟨hlive, -⟩, hsl, hp⟩ := held_eq_some.mp h
  obtain ⟨h₁, h₂, h₃⟩ := sample_inode
  rcases sample_live hlive with rfl | rfl | rfl
  · rw [h₁] at hsl
    have hzero : ∀ k, Ext2Inode.block Bytes.zero k = 0 := fun k => by
      simp [Ext2Inode.block, Bytes.le32, Bytes.slice, Le.value]
    cases sl with
    | ptr k => exact absurd (hsl.symm.trans (hzero k)) hp
    | entry j =>
      exact absurd hsl.symm hp
  · rw [h₂] at hsl
    cases sl with
    | ptr k =>
      subst hsl
      exact sample_reads.rootPtr k hp
    | entry j =>
      exact absurd hsl.symm hp
  · rw [h₃] at hsl
    cases sl with
    | ptr k =>
      subst hsl
      exact sample_reads.filePtr k hp
    | entry j =>
      simp only [slot, sample_reads.fileIndirect, sample_indirect,
        if_neg (show ¬ (20 = 0) by decide)] at hsl
      subst hsl
      exact sampleBlock_entry hp

lemma sample_blockUsed (hb : 1 ≤ b ∧ b ≤ 40) : (sample.view sampleLayout).blockUsed b = true := by
  have hvalid : ValidBlock sample.mount b := ⟨hb.1, show b < 64 by omega⟩
  have hblock : sample.blockAt 3 = sampleBlock 3 := sample_blockAt (by decide)
  have h := sample_reads.bits (b - 1) (List.mem_range.mpr (by omega))
  rw [← hblock] at h
  have hmod : (b - 1) % 8192 = b - 1 := by omega
  simp only [Ext2.view, Ext2Layout.view, Bool.and_eq_true, decide_eq_true_eq]
  refine ⟨hvalid, ?_⟩
  show bitTest (sample.blockAt 3) ((b - 1) % 8192) = true
  rw [hmod]
  exact h

lemma sample_inOrder : sample.InOrder sampleLayout where
  layout := sample_hasLayout
  owned := by
    refine ⟨⟨fun {n sl p} h => ?_, fun {n sl n' sl' p} h h' => ?_⟩, fun b hb => ?_⟩
    · have ho := sample_held h
      have hp : 6 ≤ p ∧ p ≤ 22 := by
        unfold sampleOwner at ho
        split_ifs at ho <;> omega
      exact ⟨sample_blockUsed (by omega), fun hm => by have := sample_isMeta hm; omega⟩
    · have ho := (sample_held h).symm.trans (sample_held h')
      simpa using ho
    · have := sample_isMeta hb
      exact sample_blockUsed (by omega)

lemma truncatePath_sample : ((ext2TruncatePath sample [slash, 102] 13312).1.view sampleLayout) =
    withInode { sample.view sampleLayout with
      blockUsed := Function.update (sample.view sampleLayout).blockUsed 22 false } 3
      (sampleFile.setSize 13312) := by
  have hresolve : resolvePath sample [slash, 102] = some ⟨3, 2, [102]⟩ := by decide
  have hinode : readInode sample 3 = some sampleFile := sample_readFile
  have hcount : blockCount sampleFile.size = 14 ∧ blockCount 13312 = 13 := by decide
  have hget : (inodeGetBlock sample sampleFile 13 false).2.2 = 22 := by decide
  have htrunc : ext2TruncateInode sample 3 13312 =
      writeInode (freeBlock sample 22) 3 (sampleFile.setSize 13312) := by
    have hrange : List.range' 13 (14 - 13) = [13] := rfl
    simp only [ext2TruncateInode, hinode, hcount.1, hcount.2, hrange, List.foldl_cons,
      List.foldl_nil, freeBlockOf, hget]
    rfl
  have hfree := freeBlock_spec sample_hasLayout (x := 22) (by decide)
  have hvalid : ValidInode (freeBlock sample 22).mount 3 := by
    decide
  obtain ⟨hok, hb⟩ := writeInode_spec hfree.layout hvalid (sampleFile.setSize 13312)
  rw [hfree.view] at hb
  simp only [ext2TruncatePath, hresolve, htrunc, hok]
  exact hb.view

/-- Truncating a file from fourteen blocks to thirteen frees the last one, and the file still
refers to it. -/
theorem ext2_loses_blockOwnership :
    sample.InOrder sampleLayout ∧
      ¬ (Machine.run ext2Step sample [.truncatePath [slash, 102] 13312]).InOrder sampleLayout := by
  refine ⟨sample_inOrder, fun h => ?_⟩
  have hview := truncatePath_sample
  have howned : ((ext2TruncatePath sample [slash, 102] 13312).1.view sampleLayout).Owned
    (sampleLayout.IsMeta (ext2TruncatePath sample [slash, 102] 13312).1.mount) := h.owned
  rw [hview] at howned
  have hheld : (withInode { sample.view sampleLayout with
      blockUsed := Function.update (sample.view sampleLayout).blockUsed 22 false } 3
      (sampleFile.setSize 13312)).held 3 (.entry 1) = some 22 := by
    refine held_withInode_same.mpr ⟨?_, by decide, ?_, by decide⟩
    · exact (inodeLive_eq sample_hasLayout 3).symm.trans (by decide)
    · have h12 : (sampleFile.setSize 13312).block 12 = 20 := by decide
      simp only [slot, h12, sample_indirect]
      decide
  have hused := (howned.dataBlock hheld).1
  simp [withInode] at hused

/-- A run that deletes a file. -/
theorem ext2_keeps_blockOwnership_delete :
    (Machine.run ext2Step sample [.delete [slash, 102], .lseek 0 0 2, .close 0]).InOrder
      sampleLayout := by
  have hresolve : resolvePath sample [slash, 102] = some ⟨3, 2, [102]⟩ := by decide
  have hops : Machine.Runs KeepsOwnership ext2Step sample
      [.delete [slash, 102], .lseek 0 0 2, .close 0] := by
    refine ⟨fun r hr _ _ => ?_, True.intro, True.intro, True.intro⟩
    obtain rfl := Option.some.inj (hr.symm.trans hresolve)
    refine ⟨fun inode hi => ⟨by decide, ?_⟩, fun _ _ => by decide⟩
    obtain ⟨-, rfl⟩ := readInode_eq_some sample_hasLayout hi
    rw [sample_inode.2.2]
    decide
  exact (ext2_keeps_blockOwnership sample_inOrder hops).1

end NeuroSpark
