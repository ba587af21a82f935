import NeuroSpark.Ext2.View

/-!
# Mounting an ext2 file system

`ext2_init_state_from_partition` reads the superblock of a partition and sets the mount state up
from it. Of the superblock it checks the magic number and the block size only.
-/

namespace NeuroSpark

open Word

def ext2SuperblockOffsetLba : Nat := 2
def ext2SuperblockMagic : Nat := 0xEF53
def ext2InodeSize : Nat := 128

/-- The fields of the superblock that the driver uses. -/
structure Ext2Superblock where
  inodeCount : Nat
  blockCount : Nat
  firstDataBlock : Nat
  logBlockSize : Nat
  blocksPerGroup : Nat
  inodesPerGroup : Nat
  magic : Nat
  inodeSize : Nat
  deriving DecidableEq

namespace Ext2Superblock

def parse (raw : Ext2Block) : Ext2Superblock where
  inodeCount := raw.le32 0
  blockCount := raw.le32 4
  firstDataBlock := raw.le32 20
  logBlockSize := raw.le32 24
  blocksPerGroup := raw.le32 32
  inodesPerGroup := raw.le32 40
  magic := raw.le16 56
  inodeSize := raw.le16 88

/-- `1024u << log_block_size`. C leaves a shift by 32 or more open; the builds refuse to mount then,
as they do for every block size other than that of a shift by 0. -/
def blockSize (sb : Ext2Superblock) : Nat :=
  if sb.logBlockSize < 32 then u32 (1024 * 2 ^ sb.logBlockSize) else 0

/-- The mount state that the superblock leads to. -/
def mountState (sb : Ext2Superblock) (partitionLba : Nat) : Ext2MountState where
  mounted := true
  partitionLba := partitionLba
  inodesPerGroup := sb.inodesPerGroup
  blocksPerGroup := sb.blocksPerGroup
  inodeSize := if sb.inodeSize ≠ 0 then sb.inodeSize else ext2InodeSize
  groupDescBlock := 2
  groupDescCount := sub32 (u32 (sb.blockCount + sb.blocksPerGroup)) 1 / sb.blocksPerGroup
  totalInodes := sb.inodeCount
  totalBlocks := sb.blockCount
  firstDataBlock := sb.firstDataBlock

end Ext2Superblock

/-- The two sectors of the superblock; `none` when one of them cannot be read. -/
def readSuperblock (dev : Device) (partitionLba : Nat) : Option Ext2Superblock :=
  match diskReadSectorUncached dev (u32 (partitionLba + ext2SuperblockOffsetLba)),
    diskReadSectorUncached dev (u32 (partitionLba + ext2SuperblockOffsetLba + 1)) with
  | some a, some b => some (.parse (joinSectors a b))
  | _, _ => none

/-- The state that every mount starts from. -/
def Ext2MountState.unmounted (partitionLba : Nat) : Ext2MountState :=
  ⟨false, partitionLba, 0, 0, 0, 0, 0, 0, 0, 0⟩

/-- The second component tells whether the file system was mounted. -/
def ext2InitStateFromPartition (s : Ext2) (partitionLba : Nat) : Ext2 × Bool :=
  match readSuperblock s.dev partitionLba with
  | none => ({ s with mount := .unmounted partitionLba }, false)
  | some sb =>
    if sb.magic ≠ ext2SuperblockMagic ∨ sb.blockSize ≠ ext2BlockSize then
      ({ s with mount :=
        { Ext2MountState.unmounted partitionLba with firstDataBlock := sb.firstDataBlock } }, false)
    else
      let t := { s with mount := sb.mountState partitionLba }
      match readGroupDesc t 0 with
      | none => ({ s with mount := { sb.mountState partitionLba with mounted := false } }, false)
      | some _ => (t, true)

/-- The state of the driver after a successful mount of some disk. -/
def Ext2MountState.Mounted (m : Ext2MountState) : Prop :=
  ∃ (s : Ext2) (partitionLba : Nat), partitionLba < 4294967296 ∧
    (ext2InitStateFromPartition s partitionLba).2 = true ∧
    (ext2InitStateFromPartition s partitionLba).1.mount = m

lemma ext2Init_mount {s : Ext2} {partitionLba : Nat}
    (h : (ext2InitStateFromPartition s partitionLba).2 = true) :
    ∃ sb, readSuperblock s.dev partitionLba = some sb ∧ sb.magic = ext2SuperblockMagic ∧
      sb.blockSize = ext2BlockSize ∧
      (ext2InitStateFromPartition s partitionLba).1 =
        { s with mount := sb.mountState partitionLba } := by
  unfold ext2InitStateFromPartition at h ⊢
  split at h
  · cases h
  · rename_i sb hsb
    split_ifs at h with hbad
    push Not at hbad
    rw [if_neg (by simp [hbad])]
    dsimp only at h ⊢
    split at h
    · cases h
    · exact ⟨sb, hsb, hbad.1, hbad.2, rfl⟩

namespace Ext2MountState.Mounted

variable {m : Ext2MountState}

lemma exists_superblock (h : m.Mounted) : ∃ (raw : Ext2Block) (partitionLba : Nat),
    partitionLba < 4294967296 ∧ m = (Ext2Superblock.parse raw).mountState partitionLba := by
  obtain ⟨s, partitionLba, hlt, hok, rfl⟩ := h
  obtain ⟨sb, hsb, -, -, hmount⟩ := ext2Init_mount hok
  unfold readSuperblock at hsb
  split at hsb
  · rename_i a b _ _
    exact ⟨joinSectors a b, partitionLba, hlt, by rw [hmount, ← Option.some.inj hsb]⟩
  · cases hsb

lemma groupDescBlock (h : m.Mounted) : m.groupDescBlock = 2 := by
  obtain ⟨raw, partitionLba, -, rfl⟩ := h.exists_superblock
  rfl

lemma groupDescCount_lt (h : m.Mounted) : m.groupDescCount < 4294967296 := by
  obtain ⟨raw, partitionLba, -, rfl⟩ := h.exists_superblock
  exact (Nat.div_le_self _ _).trans_lt (u32_lt _)

lemma totalInodes_lt (h : m.Mounted) : m.totalInodes < 4294967296 := by
  obtain ⟨raw, partitionLba, -, rfl⟩ := h.exists_superblock
  exact Bytes.le32_lt raw 0

lemma groupDescCount (h : m.Mounted) (hpos : 0 < m.blocksPerGroup)
    (hlt : m.totalBlocks + m.blocksPerGroup ≤ 4294967296) :
    m.groupDescCount = (m.totalBlocks + m.blocksPerGroup - 1) / m.blocksPerGroup := by
  obtain ⟨raw, partitionLba, -, rfl⟩ := h.exists_superblock
  generalize Ext2Superblock.parse raw = sb at hpos hlt ⊢
  have hrounded : sub32 (u32 (sb.blockCount + sb.blocksPerGroup)) 1 =
      sb.blockCount + sb.blocksPerGroup - 1 := by
    simp only [Ext2Superblock.mountState] at hpos hlt
    unfold sub32 u32
    omega
  simp only [Ext2Superblock.mountState, hrounded]

lemma readGroupDesc {s : Ext2} (h : s.mount.Mounted) (hs : s.dev.Healthy) {k : Nat}
    (hk : k < 4294967296) : readGroupDesc s k = some (s.descAt k) := by
  have hblock := h.groupDescBlock
  have hlt : s.mount.groupDescBlock + k / 32 < 4294967296 := by omega
  simp only [NeuroSpark.readGroupDesc, u32_of_lt hlt, readBlock_eq hs, Option.map_some,
    Ext2.descAt]

end Ext2MountState.Mounted

/-- The disk whose block `b` holds `blk b`. -/
def Device.ofBlocks (blk : Nat → Ext2Block) : Device :=
  Device.ofSectors fun lba =>
    if lba % 2 = 0 then lowerHalf (blk (lba / 2)) else upperHalf (blk (lba / 2))

/-- The driver before any mount. -/
def Ext2.unmounted (dev : Device) : Ext2 where
  dev := dev
  mount := .unmounted 0
  handles _ := ⟨false, 0, 0, 0, 0⟩
  stack _ := 0

/-- The driver after mounting the disk with these blocks at LBA 0. -/
def Ext2.ofBlocks (blk : Nat → Ext2Block) : Ext2 :=
  (ext2InitStateFromPartition (.unmounted (.ofBlocks blk)) 0).1

/-- The block of a superblock with blocks of 1024 bytes. -/
def superblockBlock (inodeCount blockCount firstDataBlock blocksPerGroup inodesPerGroup : Nat) :
    Ext2Block :=
  let b : Ext2Block := (Bytes.setLe32 Bytes.zero 0 inodeCount).setLe32 4 blockCount
  let b : Ext2Block := (b.setLe32 20 firstDataBlock).setLe32 32 blocksPerGroup
  (b.setLe32 40 inodesPerGroup).setLe16 56 ext2SuperblockMagic

lemma ext2Init_dev (s : Ext2) (partitionLba : Nat) :
    (ext2InitStateFromPartition s partitionLba).1.dev = s.dev := by
  unfold ext2InitStateFromPartition
  split
  · rfl
  · split_ifs
    · rfl
    · dsimp only
      split
      · rfl
      · rfl

lemma Ext2.ofBlocks_healthy (blk : Nat → Ext2Block) : (Ext2.ofBlocks blk).dev.Healthy := by
  rw [Ext2.ofBlocks, ext2Init_dev]
  exact Device.healthy_ofSectors _

lemma Ext2.blockAt_ofBlocks {blk : Nat → Ext2Block} {b : Nat}
    (hlba : (Ext2.ofBlocks blk).mount.partitionLba = 0) (hb : b < 2147483648) :
    (Ext2.ofBlocks blk).blockAt b = blk b := by
  have hl : blockToLba (Ext2.ofBlocks blk).mount b = 2 * b := by
    unfold blockToLba u32
    omega
  have hl' : u32 (2 * b + 1) = 2 * b + 1 := u32_of_lt (by omega)
  have hdiv : (2 * b + 1) / 2 = b := by omega
  have hmod : ¬ (2 * b + 1) % 2 = 0 := by omega
  have hdev : (Ext2.ofBlocks blk).dev = .ofBlocks blk := ext2Init_dev _ _
  rw [Ext2.blockAt, hdev, hl, hl']
  simp only [Device.ofBlocks, Device.ofSectors, Nat.mul_mod_right, if_true, if_neg hmod, hdiv,
    Nat.mul_div_cancel_left b (show 0 < 2 by decide), joinSectors_halves]

end NeuroSpark
