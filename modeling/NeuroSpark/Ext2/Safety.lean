import NeuroSpark.Ext2.Bitmaps
import NeuroSpark.Ext2.Frame

/-!
# The accesses of the ext2 driver

Which divisions and which accesses to its local block buffers the functions of the driver make. The
mount checks the magic number and the block size only, so whether they are all in order depends on
the other numbers of the superblock.

`ext2_readlink` also copies as many bytes from its block buffer as the inode is long, if the caller
asks for so many.
-/

namespace NeuroSpark

open Word

variable {inRange : Nat → Nat → Bool} {bitmapOf : Ext2GroupDesc → Nat} {t : Ext2} {perGroup : Nat}
  {bit : Nat}

/-! ### Accesses -/

/-- The bits of one bitmap that the loop of an allocator tests, up to the first free one. -/
def testedBits (bitmap : Ext2Block) (perGroup : Nat) (inRange : Nat → Bool) : List Nat :=
  let bits := (List.range perGroup).takeWhile inRange
  bits.takeWhile (bitTest bitmap) ++ (bits.dropWhile (bitTest bitmap)).take 1

/-- The bits that the loop over the groups of an allocator tests. -/
def testedIn (s : Ext2) (bitmapOf : Ext2GroupDesc → Nat) (perGroup : Nat)
    (inRange : Nat → Nat → Bool) : List Nat → List Nat
  | [] => []
  | group :: groups =>
    match readGroupDesc s group with
    | none => []
    | some gd =>
      match readBlock s (bitmapOf gd) with
      | none => []
      | some bitmap =>
        testedBits bitmap perGroup (inRange group) ++
          match firstFreeBit bitmap perGroup (inRange group) with
          | some _ => []
          | none => testedIn s bitmapOf perGroup inRange groups

/-- The inode of a bit is in range. -/
def inodeInRange (m : Ext2MountState) (group bit : Nat) : Bool :=
  u32 (group * m.inodesPerGroup + bit + 1) ≤ m.totalInodes

/-- The block of a bit is in range. -/
def blockInRange (m : Ext2MountState) (group bit : Nat) : Bool :=
  u32 (group * m.blocksPerGroup + bit + m.firstDataBlock) < m.totalBlocks

/-- The bit lies in a bitmap buffer of 1024 bytes. -/
def BitInBuffer (bit : Nat) : Prop := bit / 8 < 1024

/-- The 18 bytes that `read_group_desc` takes from its buffer of 1024 bytes lie in it. -/
def DescInBuffer (group : Nat) : Prop := ∀ i < 18, group % 32 * 32 + i < 1024

/-- The 128 bytes of an inode lie in a buffer of the given size. -/
def InodeInBuffer (m : Ext2MountState) (index size : Nat) : Prop :=
  ∀ i < 128, u32 (index * m.inodeSize) % ext2BlockSize + i < size

/-- A call of a function that divides or accesses a block buffer at a place that depends on its
arguments or on the disk. -/
inductive Ext2Call where
  | readInode (inodeNum : Nat)
  | writeInode (inodeNum : Nat)
  | allocInode
  | freeInode (inodeNum : Nat)
  | allocBlock
  | freeBlock (blockNum : Nat)
  | pointer (index : Nat)
  | entryName (blk : Ext2Block) (off : Nat)
  | newEntry (blk : Ext2Block) (off nameLen : Nat)
  | readlink (inode : Ext2Inode) (maxLen : Nat)

/-- The inode numbers for which `inode_group_and_offset` divides, and what then holds of the group
and the index. -/
def InodePlaceSafe (m : Ext2MountState) (inodeNum : Nat) (p : Nat → Nat → Prop) : Prop :=
  ValidInode m inodeNum → m.inodesPerGroup ≠ 0 ∧ DescInBuffer ((inodeNum - 1) / m.inodesPerGroup) ∧
    p ((inodeNum - 1) / m.inodesPerGroup) ((inodeNum - 1) % m.inodesPerGroup)

/-- No division by zero, and every access to a block buffer lies in the buffer. -/
def Ext2Call.Safe (s : Ext2) : Ext2Call → Prop
  | .readInode n => InodePlaceSafe s.mount n fun _ index =>
      -- an inode that crosses the end of its block is read from a buffer of 4096 bytes
      InodeInBuffer s.mount index
        (if u32 (index * s.mount.inodeSize) % ext2BlockSize + 128 ≤ ext2BlockSize then 1024 else 4096)
  | .writeInode n => InodePlaceSafe s.mount n fun _ index => InodeInBuffer s.mount index 4096
  | .allocInode => (∀ group < s.mount.groupDescCount, DescInBuffer group) ∧
      ∀ bit ∈ testedIn s Ext2GroupDesc.inodeBitmap s.mount.inodesPerGroup (inodeInRange s.mount)
        (List.range s.mount.groupDescCount), BitInBuffer bit
  | .freeInode n => InodePlaceSafe s.mount n fun group index =>
      ∀ gd, readGroupDesc s group = some gd → (readBlock s gd.inodeBitmap).isSome → BitInBuffer index
  | .allocBlock => (∀ group < s.mount.groupDescCount, DescInBuffer group) ∧
      ∀ bit ∈ testedIn s Ext2GroupDesc.blockBitmap s.mount.blocksPerGroup (blockInRange s.mount)
        (List.range s.mount.groupDescCount), BitInBuffer bit
  | .freeBlock n => s.mount.blocksPerGroup ≠ 0 ∧
      (sub32 n s.mount.firstDataBlock / s.mount.blocksPerGroup < s.mount.groupDescCount →
        DescInBuffer (sub32 n s.mount.firstDataBlock / s.mount.blocksPerGroup) ∧
        ∀ gd, readGroupDesc s (sub32 n s.mount.firstDataBlock / s.mount.blocksPerGroup) = some gd →
          (readBlock s gd.blockBitmap).isSome →
          BitInBuffer (sub32 n s.mount.firstDataBlock % s.mount.blocksPerGroup))
  | .pointer index => index < inodePtrsPerBlock → ∀ i < 4, 4 * index + i < 4096
  | .entryName blk off => off ∈ dirOffsets blk → ∀ i < 8 + entNameLen blk off, off + i < 4096
  | .newEntry blk off nameLen => off ∈ dirOffsets blk → nameLen ≤ ext2NameMax →
      ∀ i < 8 + nameLen + 1, off + recordLen (entNameLen blk off) + i < 4096
  | .readlink inode maxLen => inlineTargetMax < inode.size →
      ∀ i < (readlinkLen inode.size maxLen).toNat, i < 4096

/-- At most a buffer of 4096 bytes is copied from a symbolic link. -/
def Ext2Call.Short : Ext2Call → Prop
  | .readlink inode maxLen => inode.size ≤ inlineTargetMax ∨ readlinkLen inode.size maxLen ≤ 4096
  | _ => True

lemma Ext2Call.Safe.short {call : Ext2Call} (h : call.Safe t) : call.Short := by
  cases call with
  | readlink inode maxLen =>
    by_cases hle : inode.size ≤ inlineTargetMax
    · exact Or.inl hle
    · refine Or.inr ?_
      by_contra hlong
      have hlt := h (by omega) 4096 (by omega)
      omega
  | _ => trivial

end NeuroSpark
