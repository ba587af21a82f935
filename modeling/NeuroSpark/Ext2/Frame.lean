import NeuroSpark.Ext2.Runs

/-!
# What no operation of the driver changes

Blocks, inodes and directory records are written without a look at the mount state and the handles,
whatever the disk holds, and no call of the driver changes the mount state.
-/

namespace NeuroSpark

open Word

variable {s t : Ext2}

/-- The mount state, the handles, and the way the device works. -/
def Ext2.frame (s : Ext2) :
    Ext2MountState × (Nat → Ext2Handle) × DiskBackend × (Nat → Bool) × (Nat → Bool) :=
  (s.mount, s.handles, s.dev.backend, s.dev.readFault, s.dev.writeFault)

lemma Ext2.mount_eq (h : t.frame = s.frame) : t.mount = s.mount := congrArg Prod.fst h

lemma Ext2.handles_eq (h : t.frame = s.frame) : t.handles = s.handles :=
  congrArg (·.2.1) h

lemma Ext2.healthy_of_frame (h : t.frame = s.frame) (hs : s.dev.Healthy) : t.dev.Healthy := by
  simp only [Ext2.frame, Prod.mk.injEq] at h
  obtain ⟨-, -, hbackend, hread, hwrite⟩ := h
  refine ⟨⟨fun k => by rw [hread, hs.reads], fun k => by rw [hwrite, hs.writes]⟩, fun lba => ?_⟩
  rw [Device.sectorOf, hbackend, ← Device.sectorOf, hs.whole]

@[simp] lemma Ext2.setHandle_mount (s : Ext2) (h : Nat) (x : Ext2Handle) :
    (s.setHandle h x).mount = s.mount := rfl

@[simp] lemma writeBlock_frame (s : Ext2) (b : Nat) (buf : Ext2Block) :
    (writeBlock s b buf).frame = s.frame := by
  have h : ∀ (d : Device) (lba : Nat) (buffer : Sector),
      (diskWriteSectorUncached d lba buffer).readFault = d.readFault ∧
        (diskWriteSectorUncached d lba buffer).writeFault = d.writeFault := by
    intro d lba buffer
    unfold diskWriteSectorUncached
    split <;> exact ⟨rfl, rfl⟩
  simp [Ext2.frame, writeBlock, h]

section

variable (s : Ext2)

@[simp] lemma allocBlockIn_frame (groups : List Nat) :
    (allocBlockIn s groups).1.frame = s.frame := by
  induction groups with
  | nil => rfl
  | cons g groups ih =>
    simp only [allocBlockIn]
    repeat' split
    all_goals simp [ih]

@[simp] lemma allocGoodBlock_frame : (allocGoodBlock s).1.frame = s.frame := by
  have h := allocBlockIn_frame s (List.range s.mount.groupDescCount)
  unfold allocGoodBlock
  dsimp only
  split
  · exact h
  · split <;> exact h

@[simp] lemma indirectGetBlock_frame (indirectNum index : Nat) (create : Bool) :
    (indirectGetBlock s indirectNum index create).1.frame = s.frame := by
  unfold indirectGetBlock
  split
  · rfl
  · dsimp only
    split
    · split <;> simp
    · rfl

@[simp] lemma inodeGetBlock_frame (inode : Ext2Inode) (index : Nat) (create : Bool) :
    (inodeGetBlock s inode index create).1.frame = s.frame := by
  unfold inodeGetBlock
  dsimp only
  split
  · split
    · split <;> exact allocGoodBlock_frame s
    · rfl
  · split
    · rfl
    · split
      · split
        · rfl
        · split
          · exact allocGoodBlock_frame s
          · rw [indirectGetBlock_frame, writeBlock_frame, allocGoodBlock_frame]
      · exact indirectGetBlock_frame s _ _ _

@[simp] lemma writeInode_frame (inodeNum : Nat) (inode : Ext2Inode) :
    (writeInode s inodeNum inode).1.frame = s.frame := by
  unfold writeInode
  split
  · rfl
  · split <;> simp

@[simp] lemma freeBlock_frame (blockNum : Nat) : (freeBlock s blockNum).frame = s.frame := by
  unfold freeBlock
  dsimp only
  repeat' split
  all_goals simp

end

@[simp] lemma ext2WriteLoop_frame (pos : Nat) (src : List UInt8) (fuel : Nat) (s : Ext2)
    (inode : Ext2Inode) (total : Nat) :
    (ext2WriteLoop pos src fuel s inode total).1.frame = s.frame := by
  induction fuel generalizing s inode total with
  | zero => rfl
  | succ fuel ih =>
    rw [ext2WriteLoop]
    dsimp only
    split
    · split
      · exact inodeGetBlock_frame s _ _ _
      · rw [ih, writeBlock_frame, inodeGetBlock_frame]
    · rfl

@[simp] lemma foldl_clearDirect_frame (r : Ext2 × Ext2Inode) (ks : List Nat) :
    (ks.foldl clearDirect r).1.frame = r.1.frame := by
  induction ks generalizing r with
  | nil => rfl
  | cons k ks ih =>
    rw [List.foldl_cons, ih, clearDirect]
    split
    · exact freeBlock_frame _ _
    · rfl

@[simp] lemma foldl_freeIndirect_frame (indirect : Ext2Block) (s : Ext2) (js : List Nat) :
    (js.foldl (freeIndirect indirect) s).frame = s.frame := by
  induction js generalizing s with
  | nil => rfl
  | cons j js ih =>
    rw [List.foldl_cons, ih, freeIndirect]
    split
    · exact freeBlock_frame _ _
    · rfl

@[simp] lemma inodeClearBlocks_frame (s : Ext2) (inode : Ext2Inode) :
    (inodeClearBlocks s inode).1.frame = s.frame := by
  have h := foldl_clearDirect_frame (s, inode) (List.range 12)
  unfold inodeClearBlocks
  dsimp only
  split
  · rw [freeBlock_frame]
    split
    · exact h
    · rw [foldl_freeIndirect_frame]
      exact h
  · exact h

@[simp] lemma foldl_freeBlockOf_frame (inode : Ext2Inode) (s : Ext2) (is : List Nat) :
    (is.foldl (freeBlockOf inode) s).frame = s.frame := by
  induction is generalizing s with
  | nil => rfl
  | cons i is ih =>
    rw [List.foldl_cons, ih, freeBlockOf]
    split
    · rfl
    · exact freeBlock_frame _ _

@[simp] lemma ext2TruncateInode_frame (s : Ext2) (inodeNum newSize : Nat) :
    (ext2TruncateInode s inodeNum newSize).1.frame = s.frame := by
  unfold ext2TruncateInode
  split
  · rfl
  · dsimp only
    rw [writeInode_frame]
    split_ifs <;> simp only [inodeClearBlocks_frame, foldl_freeBlockOf_frame]

/-! ### Inodes and directories -/

section

variable (s : Ext2)

@[simp] lemma allocInode_frame : (allocInode s).1.frame = s.frame := by
  have h : ∀ groups, (allocInodeIn s groups).1.frame = s.frame := by
    intro groups
    induction groups with
    | nil => rfl
    | cons g groups ih =>
      simp only [allocInodeIn]
      repeat' split
      all_goals simp [ih]
  exact h _

@[simp] lemma freeInode_frame (inodeNum : Nat) : (freeInode s inodeNum).frame = s.frame := by
  unfold freeInode
  repeat' split
  all_goals simp

lemma dirAddEntryFrom_frame (dirInodeNum : Nat) (name : CString)
    (inodeNum fileType count fuel : Nat)
    (s : Ext2) (dirInode : Ext2Inode) (b : Nat) :
    (dirAddEntryFrom dirInodeNum name inodeNum fileType count fuel s dirInode b).1.frame =
      s.frame := by
  induction fuel generalizing s dirInode b with
  | zero => rfl
  | succ fuel ih =>
    simp only [dirAddEntryFrom]
    repeat' split
    all_goals simp [ih]

@[simp] lemma dirAddEntry_frame (dirInodeNum : Nat) (name : CString) (inodeNum fileType : Nat) :
    (dirAddEntry s dirInodeNum name inodeNum fileType).1.frame = s.frame := by
  unfold dirAddEntry
  split
  · rfl
  · exact dirAddEntryFrom_frame ..

@[simp] lemma dirRemoveEntry_frame (dirInodeNum : Nat) (name : CString) :
    (dirRemoveEntry s dirInodeNum name).1.frame = s.frame := by
  unfold dirRemoveEntry
  split
  · rfl
  · rename_i dirInode _
    generalize List.range (blockCount dirInode.size) = bs
    induction bs with
    | nil => rfl
    | cons b bs ih =>
      rw [dirRemoveEntryIn]
      repeat' split
      all_goals simp [ih]

@[simp] lemma ext2MkdirEnter_frame (r : Resolved) (parent : Ext2Inode) (inodeNum : Nat)
    (inode : Ext2Inode) (blockNum : Nat) :
    (ext2MkdirEnter s r parent inodeNum inode blockNum).1.frame = s.frame := by
  simp only [ext2MkdirEnter]
  repeat' split
  all_goals simp

@[simp] lemma ext2SymlinkEnter_frame (r : Resolved) (linkInode : Nat) (inode : Ext2Inode) :
    (ext2SymlinkEnter s r linkInode inode).1.frame = s.frame := by
  simp only [ext2SymlinkEnter]
  repeat' split
  all_goals simp

end

/-! ### The mount state -/

@[simp] lemma ext2OpenInode_mount (s : Ext2) (inodeNum : Nat) (flags : UInt32) :
    (ext2OpenInode s inodeNum flags).1.mount = s.mount := by
  have htrunc := Ext2.mount_eq (ext2TruncateInode_frame s inodeNum 0)
  simp only [ext2OpenInode]
  repeat' split
  all_goals simp [htrunc]

section

variable {s : Ext2}

lemma readInode_isSome_iff (hs : s.dev.Healthy) (inodeNum : Nat) :
    (readInode s inodeNum).isSome ↔ (inodeGroupAndOffset s.mount inodeNum).isSome := by
  simp only [readInode, inodePlace, readGroupDesc, readBlock_eq hs]
  cases inodeGroupAndOffset s.mount inodeNum <;> simp

lemma writeInode_ok (hs : s.dev.Healthy) {inodeNum : Nat}
    (hn : (inodeGroupAndOffset s.mount inodeNum).isSome) (inode : Ext2Inode) :
    (writeInode s inodeNum inode).2 = true ∧ (writeInode s inodeNum inode).1.dev.Healthy := by
  obtain ⟨p, hp⟩ := Option.isSome_iff_exists.mp hn
  simp only [writeInode, inodePlace, hp, readGroupDesc, readBlock_eq hs, Option.map_some]
  exact ⟨trivial, writeBlock_healthy hs _ _⟩

lemma ext2TruncateInode_ok (hs : s.dev.Healthy) {inodeNum : Nat}
    (hn : (readInode s inodeNum).isSome) :
    (ext2TruncateInode s inodeNum 0).2 = true ∧
      (readInode (ext2TruncateInode s inodeNum 0).1 inodeNum).isSome := by
  have hplace := (readInode_isSome_iff hs inodeNum).mp hn
  obtain ⟨inode, hi⟩ := Option.isSome_iff_exists.mp hn
  have hwrite : ∀ (t : Ext2) (j : Ext2Inode), t.dev.Healthy → t.mount = s.mount →
      (writeInode t inodeNum j).2 = true ∧
        (readInode (writeInode t inodeNum j).1 inodeNum).isSome := by
    intro t j ht hm
    obtain ⟨hok, hhealthy⟩ := writeInode_ok ht (by rw [hm]; exact hplace) j
    refine ⟨hok, (readInode_isSome_iff hhealthy inodeNum).mpr ?_⟩
    rw [Ext2.mount_eq (writeInode_frame t inodeNum j), hm]
    exact hplace
  have h0 : blockCount 0 = 0 := by simp [blockCount, u32, ext2BlockSize]
  unfold ext2TruncateInode
  rw [hi]
  simp only [h0, Nat.zero_le, if_true]
  split
  · apply hwrite
    · exact Ext2.healthy_of_frame (by simp) hs
    · exact Ext2.mount_eq (by simp)
  · apply hwrite
    · exact Ext2.healthy_of_frame (by simp) hs
    · exact Ext2.mount_eq (by simp)

end

end NeuroSpark
