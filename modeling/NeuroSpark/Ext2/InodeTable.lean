import NeuroSpark.Ext2.Bitmaps

/-!
# The inode tables of ext2

An inode written to its table is read back, and every other inode and every other block stay as
they were. The tables must lie apart from each other and from the descriptors on the disk, and the
offsets in a table must be 32-bit words. The image need not be in order in any other way.
-/

namespace NeuroSpark

open Word

variable {s : Ext2}

lemma blockToLba_u32 (m : Ext2MountState) (b : Nat) : blockToLba m (u32 b) = blockToLba m b := by
  unfold blockToLba u32
  omega

/-- The block of the inode table in which an inode lies. -/
def Ext2.tableBlock (s : Ext2) (n : Nat) : Nat :=
  (s.descAt ((n - 1) / s.mount.inodesPerGroup)).inodeTable +
    (n - 1) % s.mount.inodesPerGroup * s.mount.inodeSize / ext2BlockSize

/-- Block `j` of the inode table of group `k` holds inodes. -/
def Ext2MountState.HasTableBlock (m : Ext2MountState) (k j : Nat) : Prop :=
  k * m.inodesPerGroup < m.totalInodes ∧ j * ext2BlockSize < m.inodesPerGroup * m.inodeSize

/-- The inode tables have no block in common. -/
def Ext2.TablesDisjoint (s : Ext2) : Prop :=
  ∀ k k' j j', s.mount.HasTableBlock k j → s.mount.HasTableBlock k' j' →
    (s.descAt k).inodeTable + j = (s.descAt k').inodeTable + j' → k = k' ∧ j = j'

/-- The blocks of the inode tables lie in different sectors, and none of them in those of a
descriptor. -/
structure Ext2.TablesApart (s : Ext2) : Prop where
  distinct : ∀ k k' j j', s.mount.HasTableBlock k j → s.mount.HasTableBlock k' j' →
    blockToLba s.mount ((s.descAt k).inodeTable + j) =
      blockToLba s.mount ((s.descAt k').inodeTable + j') → k = k' ∧ j = j'
  desc : ∀ k k' j, s.mount.HasTableBlock k j → k' * s.mount.inodesPerGroup < s.mount.totalInodes →
    blockToLba s.mount (s.mount.groupDescBlock + k' / 32) ≠
      blockToLba s.mount ((s.descAt k).inodeTable + j)

/-- What the mount state promises the functions that read and write inodes. -/
structure Ext2.SoundInodes (s : Ext2) : Prop where
  mounted : s.mount.Mounted
  inodeSize : 128 ≤ s.mount.inodeSize ∧ s.mount.inodeSize ∣ 1024
  inodesPerGroup : 0 < s.mount.inodesPerGroup

/-- The offsets in an inode table are 32-bit words. -/
def Ext2MountState.TableFits (m : Ext2MountState) : Prop :=
  m.inodesPerGroup * m.inodeSize ≤ 4294967296

/-- Inode `n` can be given the value `v`: it is read back, the other inodes are read as before, and
the sectors outside its block of the table stay. -/
structure InodeStored (s : Ext2) (n : Nat) (v : Ext2Inode) : Prop where
  written : (writeInode s n v).2 = true
  same : readInode (writeInode s n v).1 n = some v
  other : ∀ n', n' ≠ n → readInode (writeInode s n v).1 n' = readInode s n'
  frame : ∀ lba, lba ≠ blockToLba s.mount (s.tableBlock n) →
    lba ≠ u32 (blockToLba s.mount (s.tableBlock n) + 1) →
    (writeInode s n v).1.dev.sectors lba = s.dev.sectors lba

lemma hasTableBlock_of_valid {m : Ext2MountState} (hsize : 128 ≤ m.inodeSize)
    (hpos : 0 < m.inodesPerGroup) {n : Nat} (hn : ValidInode m n) :
    m.HasTableBlock ((n - 1) / m.inodesPerGroup)
      ((n - 1) % m.inodesPerGroup * m.inodeSize / ext2BlockSize) := by
  refine ⟨inodeBitmap_valid hn, ?_⟩
  calc (n - 1) % m.inodesPerGroup * m.inodeSize / ext2BlockSize * ext2BlockSize
      ≤ (n - 1) % m.inodesPerGroup * m.inodeSize := Nat.div_mul_le_self _ _
    _ < m.inodesPerGroup * m.inodeSize :=
      Nat.mul_lt_mul_of_pos_right (Nat.mod_lt _ hpos) (by omega)

section

variable (hs : s.SoundInodes) (hd : s.dev.Healthy) (hf : s.mount.TableFits)
include hs hd hf

lemma Ext2.SoundInodes.inodePlace_eq {n : Nat} (hn : ValidInode s.mount n) :
    inodePlace s n = some (u32 (s.tableBlock n), inodeOffset s.mount n) := by
  have hsize := hs.inodeSize.1
  have hoff : u32 ((n - 1) % s.mount.inodesPerGroup * s.mount.inodeSize) =
      (n - 1) % s.mount.inodesPerGroup * s.mount.inodeSize := by
    apply u32_of_lt
    calc (n - 1) % s.mount.inodesPerGroup * s.mount.inodeSize
        < s.mount.inodesPerGroup * s.mount.inodeSize :=
          Nat.mul_lt_mul_of_pos_right (Nat.mod_lt _ hs.inodesPerGroup) (by omega)
      _ ≤ 4294967296 := hf
  have hgroup : (n - 1) / s.mount.inodesPerGroup < 4294967296 := by
    have hlt := hs.mounted.totalInodes_lt
    have hle := Nat.div_le_self (n - 1) s.mount.inodesPerGroup
    have := hn.2
    omega
  simp only [inodePlace, inodeGroupAndOffset_of_valid hn, hs.mounted.readGroupDesc hd hgroup,
    Option.map_some, hoff]
  rfl

lemma Ext2.SoundInodes.readInode_eq {n : Nat} (hn : ValidInode s.mount n) :
    readInode s n = some (Bytes.ofFun fun i =>
      (s.blockAt (s.tableBlock n)).get (inodeOffset s.mount n + i)) := by
  have hle := inodeOffset_le hs.inodeSize n
  simp only [readInode, hs.inodePlace_eq hd hf hn, readBlock_eq hd, Option.map_some,
    Option.some.injEq, blockAt_congr_lba (blockToLba_u32 s.mount (s.tableBlock n))]
  apply Bytes.ext_get
  intro k hk
  rw [Bytes.get_ofFun _ hk, Bytes.get_ofFun _ hk, Ext2.bufferGet, if_pos (by omega)]

lemma Ext2.SoundInodes.writeInode_eq {n : Nat} (hn : ValidInode s.mount n) (v : Ext2Inode) :
    writeInode s n v = (writeBlock s (s.tableBlock n)
      ((s.blockAt (s.tableBlock n)).patch (inodeOffset s.mount n) (v.slice 0 128)), true) := by
  have hblock := blockAt_congr_lba (s := s) (blockToLba_u32 s.mount (s.tableBlock n))
  simp only [writeInode, hs.inodePlace_eq hd hf hn, readBlock_eq hd, hblock, writeBlock,
    blockToLba_u32]

variable (ha : s.TablesApart)
include ha

omit hf in
lemma Ext2.TablesApart.descAt_writeBlock {n k : Nat} (hn : ValidInode s.mount n)
    (hk : k * s.mount.inodesPerGroup < s.mount.totalInodes) (buf : Ext2Block) :
    (writeBlock s (s.tableBlock n) buf).descAt k = s.descAt k := by
  have hplace := hasTableBlock_of_valid hs.inodeSize.1 hs.inodesPerGroup hn
  have hne : blockToLba s.mount (s.mount.groupDescBlock + k / 32) ≠
      blockToLba s.mount (s.tableBlock n) := ha.desc _ k _ hplace hk
  simp only [Ext2.descAt, writeBlock_mount, blockAt_writeBlock_of_ne hd buf hne]

omit hf in
lemma Ext2.TablesApart.tableBlock_writeBlock {n n' : Nat} (hn : ValidInode s.mount n)
    (hn' : ValidInode s.mount n') (buf : Ext2Block) :
    (writeBlock s (s.tableBlock n) buf).tableBlock n' = s.tableBlock n' := by
  rw [Ext2.tableBlock, writeBlock_mount, ha.descAt_writeBlock hs hd hn (inodeBitmap_valid hn'),
    Ext2.tableBlock]

lemma Ext2.TablesApart.readInode_writeBlock {n n' : Nat} (hn : ValidInode s.mount n)
    (hn' : ValidInode s.mount n') (buf : Ext2Block) :
    readInode (writeBlock s (s.tableBlock n) buf) n' = some (Bytes.ofFun fun i =>
      ((writeBlock s (s.tableBlock n) buf).blockAt (s.tableBlock n')).get
        (inodeOffset s.mount n' + i)) := by
  have ht : (writeBlock s (s.tableBlock n) buf).SoundInodes :=
    ⟨hs.mounted, hs.inodeSize, hs.inodesPerGroup⟩
  rw [ht.readInode_eq (writeBlock_healthy hd _ _) hf hn',
    ha.tableBlock_writeBlock hs hd hn hn', writeBlock_mount]

lemma Ext2.TablesApart.readInode_same {n : Nat} (hn : ValidInode s.mount n) (v : Ext2Inode) :
    readInode (writeBlock s (s.tableBlock n)
      ((s.blockAt (s.tableBlock n)).patch (inodeOffset s.mount n) (v.slice 0 128))) n = some v := by
  have hle := inodeOffset_le hs.inodeSize n
  rw [ha.readInode_writeBlock hs hd hf hn hn, blockAt_writeBlock_self hd, Option.some.injEq]
  apply Bytes.ext_get
  intro k hk
  rw [Bytes.get_ofFun _ hk, Bytes.get_patch_of_mem _ _ _ _ (by simpa using hk) (by omega),
    Bytes.getElem_slice, Nat.zero_add]

lemma Ext2.TablesApart.readInode_other {n n' : Nat} (hn : ValidInode s.mount n)
    (hn' : ValidInode s.mount n') (hne : n' ≠ n) (v : Ext2Inode) :
    readInode (writeBlock s (s.tableBlock n)
      ((s.blockAt (s.tableBlock n)).patch (inodeOffset s.mount n) (v.slice 0 128))) n' =
        readInode s n' := by
  rw [ha.readInode_writeBlock hs hd hf hn hn', hs.readInode_eq hd hf hn']
  by_cases hlba : blockToLba s.mount (s.tableBlock n') = blockToLba s.mount (s.tableBlock n)
  · -- the inodes lie in the same block, and there in different places
    have hvalid := hasTableBlock_of_valid hs.inodeSize.1 hs.inodesPerGroup hn
    have hvalid' := hasTableBlock_of_valid hs.inodeSize.1 hs.inodesPerGroup hn'
    obtain ⟨hgroup, hblock⟩ := ha.distinct _ _ _ _ hvalid' hvalid hlba
    have hsame : s.tableBlock n' = s.tableBlock n := by
      rw [Ext2.tableBlock, hgroup, hblock, Ext2.tableBlock]
    have hapart := inodeOffset_apart hs.inodeSize.1 hn hn' hne hgroup hblock
    rw [hsame, blockAt_writeBlock_self hd, Option.some.injEq]
    apply Bytes.ext_get
    intro k hk
    rw [Bytes.get_ofFun _ hk, Bytes.get_ofFun _ hk]
    rcases hapart with hlt | hge
    · rw [Bytes.get_patch_of_lt _ _ (by omega)]
    · rw [Bytes.get_patch_of_ge _ _ (by rw [Bytes.length_slice]; omega)]
  · rw [blockAt_writeBlock_of_ne hd _ hlba]

end

/-- Every inode of a sound image whose tables lie apart can be given any value. -/
theorem inodeStored (hs : s.SoundInodes) (hd : s.dev.Healthy) (hf : s.mount.TableFits)
    (ha : s.TablesApart) {n : Nat} (hn : ValidInode s.mount n) (v : Ext2Inode) :
    InodeStored s n v := by
  have hwrite := hs.writeInode_eq hd hf hn v
  constructor
  · rw [hwrite]
  · rw [hwrite]
    exact ha.readInode_same hs hd hf hn v
  · intro n' hne
    rw [hwrite]
    by_cases hn' : ValidInode s.mount n'
    · exact ha.readInode_other hs hd hf hn hn' hne v
    · rw [readInode_none hn', readInode_none (by rwa [writeBlock_mount])]
  · intro lba h₀ h₁
    rw [hwrite, writeBlock_sectors hd, Function.update_of_ne h₁, Function.update_of_ne h₀]

lemma plain_soundInodes : (Ext2.ofBlocks plainDisk).SoundInodes :=
  ⟨plain_soundGroups.mounted, by decide, by decide⟩

lemma plain_hasTableBlock {k j : Nat} (h : (Ext2.ofBlocks plainDisk).mount.HasTableBlock k j) :
    k = 0 ∧ j = 0 := by
  have hcount : (Ext2.ofBlocks plainDisk).mount.totalInodes = 8 ∧
      (Ext2.ofBlocks plainDisk).mount.inodesPerGroup = 8 ∧
      (Ext2.ofBlocks plainDisk).mount.inodeSize = 128 := by decide
  obtain ⟨hk, hj⟩ := h
  rw [hcount.1, hcount.2.1] at hk
  rw [hcount.2.1, hcount.2.2, ext2BlockSize] at hj
  omega

lemma plain_tablesApart : (Ext2.ofBlocks plainDisk).TablesApart := by
  constructor
  · intro k k' j j' h h' _
    obtain ⟨rfl, rfl⟩ := plain_hasTableBlock h
    obtain ⟨rfl, rfl⟩ := plain_hasTableBlock h'
    exact ⟨rfl, rfl⟩
  · intro k k' j h hk'
    obtain ⟨rfl, rfl⟩ := plain_hasTableBlock h
    have h0 : (Ext2.ofBlocks plainDisk).mount.HasTableBlock k' 0 := ⟨hk', by decide⟩
    obtain ⟨rfl, -⟩ := plain_hasTableBlock h0
    decide

/-- The inode of a new file on a small image. -/
theorem inodeStored_plain :
    InodeStored (Ext2.ofBlocks plainDisk) 3 (Ext2Inode.fresh ext2SIfreg 5 1 0) :=
  inodeStored plain_soundInodes plain_soundGroups.healthy (show _ ≤ _ by decide)
    plain_tablesApart
    (by decide) _

/-- The inode table is the block of the descriptors. -/
def tableOverlapDisk : Nat → Ext2Block
  | 1 => superblockBlock 8 64 1 8192 8
  | 2 => putDesc Bytes.zero 0 3 4 2
  | _ => Bytes.zero

/-- The tables of the two groups have different numbers and the same LBA. -/
def tableAliasDisk : Nat → Ext2Block
  | 1 => superblockBlock 2 2 0 1 1
  | 2 => putDesc (putDesc Bytes.zero 0 5 6 8) 32 7 9 2147483656
  | _ => Bytes.zero

/-- The offset of the last inode in the table of the only group is `2^32`. -/
def longTableDisk : Nat → Ext2Block
  | 1 => superblockBlock 33554433 64 1 8192 33554433
  | 2 => putDesc Bytes.zero 0 3 4 5
  | _ => Bytes.zero

/-- A disk on which writes are lost. -/
def lostWrites : Ext2 :=
  { Ext2.ofBlocks plainDisk with
    dev := { (Ext2.ofBlocks plainDisk).dev with writeFault := fun _ => true } }

lemma mounted_ofBlocks {blk : Nat → Ext2Block}
    (hok : (ext2InitStateFromPartition (.unmounted (.ofBlocks blk)) 0).2 = true) :
    (Ext2.ofBlocks blk).mount.Mounted :=
  ⟨_, 0, by decide, hok, rfl⟩

lemma tablesDisjoint_of_one (hone : s.mount.totalInodes ≤ s.mount.inodesPerGroup) :
    s.TablesDisjoint := by
  have hzero : ∀ k, k * s.mount.inodesPerGroup < s.mount.totalInodes → k = 0 := by
    intro k hk
    by_contra hne
    have := Nat.le_mul_of_pos_left s.mount.inodesPerGroup (Nat.pos_of_ne_zero hne)
    omega
  intro k k' j j' h h' he
  obtain rfl := hzero k h.1
  obtain rfl := hzero k' h'.1
  exact ⟨rfl, by omega⟩

lemma tableAlias_disjoint : (Ext2.ofBlocks tableAliasDisk).TablesDisjoint := by
  have hmount : (Ext2.ofBlocks tableAliasDisk).mount = ⟨true, 0, 1, 1, 128, 2, 2, 2, 2, 0⟩ := by
    decide
  have htable : ((Ext2.ofBlocks tableAliasDisk).descAt 0).inodeTable = 8 ∧
      ((Ext2.ofBlocks tableAliasDisk).descAt 1).inodeTable = 2147483656 := by decide
  rintro k k' j j' ⟨hk, hj⟩ ⟨hk', hj'⟩ he
  simp only [hmount, ext2BlockSize] at hk hj hk' hj'
  obtain rfl : j = 0 := by omega
  obtain rfl : j' = 0 := by omega
  obtain rfl | rfl : k = 0 ∨ k = 1 := by omega
  all_goals obtain rfl | rfl : k' = 0 ∨ k' = 1 := by omega
  all_goals simp only [htable.1, htable.2] at he
  · exact ⟨rfl, rfl⟩
  · exact absurd he (by decide)
  · exact absurd he (by decide)
  · exact ⟨rfl, rfl⟩

/-- Disjoint tables are not enough: a table may lie in the block of the descriptors, two tables may
have the same LBA, an offset may not be a word, and the disk may lose the write. -/
theorem inodeStored_fails :
    ((Ext2.ofBlocks tableOverlapDisk).SoundInodes ∧
      (Ext2.ofBlocks tableOverlapDisk).TablesDisjoint ∧
      ¬ InodeStored (Ext2.ofBlocks tableOverlapDisk) 1 (Bytes.setLe32 Bytes.zero 8 7)) ∧
    ((Ext2.ofBlocks tableAliasDisk).SoundInodes ∧ (Ext2.ofBlocks tableAliasDisk).TablesDisjoint ∧
      ¬ InodeStored (Ext2.ofBlocks tableAliasDisk) 1 (Bytes.setLe32 Bytes.zero 8 7)) ∧
    ((Ext2.ofBlocks longTableDisk).SoundInodes ∧ (Ext2.ofBlocks longTableDisk).TablesDisjoint ∧
      ¬ InodeStored (Ext2.ofBlocks longTableDisk) 1 (Bytes.setLe32 Bytes.zero 8 7)) ∧
    (lostWrites.SoundInodes ∧ lostWrites.TablesDisjoint ∧
      ¬ InodeStored lostWrites 1 (Bytes.setLe32 Bytes.zero 8 7)) := by
  refine ⟨⟨⟨mounted_ofBlocks (by decide +kernel), by decide +kernel, by decide +kernel⟩,
      tablesDisjoint_of_one (by decide +kernel), fun h => ?_⟩,
    ⟨⟨mounted_ofBlocks (by decide +kernel), by decide +kernel, by decide +kernel⟩,
      tableAlias_disjoint, fun h => ?_⟩,
    ⟨⟨mounted_ofBlocks (by decide +kernel), by decide +kernel, by decide +kernel⟩,
      tablesDisjoint_of_one (by decide +kernel), fun h => ?_⟩,
    ⟨⟨plain_soundGroups.mounted, by decide +kernel, by decide +kernel⟩,
      tablesDisjoint_of_one (by decide +kernel), fun h => ?_⟩⟩
  · exact absurd h.same (by decide +kernel)
  · exact absurd (h.other 2 (by decide)) (by decide +kernel)
  · exact absurd (h.other 33554433 (by decide)) (by decide +kernel)
  · exact absurd h.same (by decide +kernel)

end NeuroSpark
