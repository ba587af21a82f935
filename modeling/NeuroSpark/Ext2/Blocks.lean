import NeuroSpark.Disk.PageCache
import NeuroSpark.Vfs.Types

/-!
# ext2: blocks, inodes and bitmaps

The lower half of `ext2fs.c`: reading and writing blocks and inodes, the two bitmaps, and the block
pointers of an inode. The driver keeps one mounted file system with blocks of 1024 bytes and goes
to the disk past the page cache.

The local buffers of the driver are larger than a block and not initialised; `stack` stands for
what such a buffer holds past the bytes that were read into it.
-/

namespace NeuroSpark

open Word

def ext2BlockSize : Nat := 1024
def ext2RootInode : Nat := 2
def ext2MaxHandles : Nat := 256
def ext2NameMax : Nat := 255
def ext2SIfreg : Nat := 0x8000
def ext2SIfdir : Nat := 0x4000
def ext2FtUnknown : Nat := 0
def ext2FtRegFile : Nat := 1
def ext2FtDir : Nat := 2

abbrev Ext2Block := Bytes 1024

/-- The part of the mount state and of the superblock that is used after mounting. -/
structure Ext2MountState where
  mounted : Bool
  partitionLba : Nat
  inodesPerGroup : Nat
  blocksPerGroup : Nat
  inodeSize : Nat
  groupDescBlock : Nat
  groupDescCount : Nat
  totalInodes : Nat
  totalBlocks : Nat
  firstDataBlock : Nat
  deriving DecidableEq

structure Ext2Handle where
  used : Bool
  refCount : Nat
  inodeNum : Nat
  pos : Nat
  flags : UInt32

structure Ext2 where
  dev : Device
  mount : Ext2MountState
  handles : Nat → Ext2Handle
  stack : Nat → UInt8

def blockToLba (m : Ext2MountState) (blockNum : Nat) : Nat :=
  u32 (m.partitionLba + u32 (blockNum * 2))

/-- Two sectors make a block. -/
def joinSectors (a b : Sector) : Ext2Block :=
  Bytes.ofFun fun k => if k < 512 then a.get k else b.get (k - 512)

def lowerHalf (b : Ext2Block) : Sector := Bytes.ofFun b.get

def upperHalf (b : Ext2Block) : Sector := Bytes.ofFun fun k => b.get (512 + k)

def readBlock (s : Ext2) (blockNum : Nat) : Option Ext2Block :=
  let lba := blockToLba s.mount blockNum
  match diskReadSectorUncached s.dev lba, diskReadSectorUncached s.dev (u32 (lba + 1)) with
  | some a, some b => some (joinSectors a b)
  | _, _ => none

/-- Lost writes are not noticed: the source returns success in every case. -/
def writeBlock (s : Ext2) (blockNum : Nat) (buffer : Ext2Block) : Ext2 :=
  let lba := blockToLba s.mount blockNum
  let dev := diskWriteSectorUncached s.dev lba (lowerHalf buffer)
  { s with dev := diskWriteSectorUncached dev (u32 (lba + 1)) (upperHalf buffer) }

/-- A byte of a local buffer into which a block was read. -/
def Ext2.bufferGet (s : Ext2) (b : Ext2Block) (k : Nat) : UInt8 :=
  if k < 1024 then b.get k else s.stack k

structure Ext2GroupDesc where
  blockBitmap : Nat
  inodeBitmap : Nat
  inodeTable : Nat
  deriving DecidableEq

def readGroupDesc (s : Ext2) (group : Nat) : Option Ext2GroupDesc :=
  (readBlock s (u32 (s.mount.groupDescBlock + group / 32))).map fun raw =>
    let offset := group % 32 * 32
    ⟨raw.le32 offset, raw.le32 (offset + 4), raw.le32 (offset + 8)⟩

/-- The 128 bytes of an inode that the driver uses. -/
abbrev Ext2Inode := Bytes 128

namespace Ext2Inode

def mode (i : Ext2Inode) : Nat := i.le16 0
def size (i : Ext2Inode) : Nat := i.le32 4
def linksCount (i : Ext2Inode) : Nat := i.le16 26
def block (i : Ext2Inode) (k : Nat) : Nat := i.le32 (40 + 4 * k)

def setMode (i : Ext2Inode) (v : Nat) : Ext2Inode := i.setLe16 0 v
def setSize (i : Ext2Inode) (v : Nat) : Ext2Inode := i.setLe32 4 v
def setLinksCount (i : Ext2Inode) (v : Nat) : Ext2Inode := i.setLe16 26 v
def setBlocks (i : Ext2Inode) (v : Nat) : Ext2Inode := i.setLe32 28 v
def setBlock (i : Ext2Inode) (k v : Nat) : Ext2Inode := i.setLe32 (40 + 4 * k) v

/-- The inode passes the test `mode & EXT2_S_IFDIR`. -/
def isDir (i : Ext2Inode) : Bool := i.mode &&& ext2SIfdir ≠ 0

/-- A new inode: every field not given is zero. -/
def fresh (mode size linksCount blocks : Nat) : Ext2Inode :=
  let i : Ext2Inode := setMode Bytes.zero mode
  ((i.setSize size).setLinksCount linksCount).setBlocks blocks

end Ext2Inode

def inodeGroupAndOffset (m : Ext2MountState) (inodeNum : Nat) : Option (Nat × Nat) :=
  if inodeNum = 0 ∨ m.totalInodes < inodeNum then none
  else some ((inodeNum - 1) / m.inodesPerGroup, (inodeNum - 1) % m.inodesPerGroup)

/-- The block of the inode table and the offset in it at which an inode lies. -/
def inodePlace (s : Ext2) (inodeNum : Nat) : Option (Nat × Nat) :=
  match inodeGroupAndOffset s.mount inodeNum with
  | none => none
  | some (group, index) =>
    (readGroupDesc s group).map fun gd =>
      let inodeOffset := u32 (index * s.mount.inodeSize)
      (u32 (gd.inodeTable + inodeOffset / ext2BlockSize), inodeOffset % ext2BlockSize)

def readInode (s : Ext2) (inodeNum : Nat) : Option Ext2Inode :=
  match inodePlace s inodeNum with
  | none => none
  | some (blockIndex, blockOffset) =>
    (readBlock s blockIndex).map fun raw => Bytes.ofFun fun i => s.bufferGet raw (blockOffset + i)

/-- The second component tells whether the inode was written. -/
def writeInode (s : Ext2) (inodeNum : Nat) (inode : Ext2Inode) : Ext2 × Bool :=
  match inodePlace s inodeNum with
  | none => (s, false)
  | some (blockIndex, blockOffset) =>
    match readBlock s blockIndex with
    | none => (s, false)
    | some raw => (writeBlock s blockIndex (raw.patch blockOffset (inode.slice 0 128)), true)

def bitTest (bitmap : Ext2Block) (bit : Nat) : Bool :=
  bitmap.get (bit / 8) &&& UInt8.ofNat (2 ^ (bit % 8)) ≠ 0

def bitSet (bitmap : Ext2Block) (bit : Nat) (value : Bool) : Ext2Block :=
  let mask := UInt8.ofNat (2 ^ (bit % 8))
  let byte := bitmap.get (bit / 8)
  bitmap.patch (bit / 8) [if value then byte ||| mask else byte &&& ~~~mask]

/-- The first free bit whose number, counted by `number`, is in range. -/
def firstFreeBit (bitmap : Ext2Block) (perGroup : Nat) (inRange : Nat → Bool) : Option Nat :=
  ((List.range perGroup).takeWhile inRange).find? fun bit => !bitTest bitmap bit

/-- The loop over the groups of `alloc_inode`. -/
def allocInodeIn (s : Ext2) : List Nat → Ext2 × Option Nat
  | [] => (s, none)
  | group :: groups =>
    let inodeNum bit := u32 (group * s.mount.inodesPerGroup + bit + 1)
    match readGroupDesc s group with
    | none => (s, none)
    | some gd =>
      match readBlock s gd.inodeBitmap with
      | none => (s, none)
      | some bitmap =>
        match firstFreeBit bitmap s.mount.inodesPerGroup
          fun bit => inodeNum bit ≤ s.mount.totalInodes with
        | some bit => (writeBlock s gd.inodeBitmap (bitSet bitmap bit true), some (inodeNum bit))
        | none => allocInodeIn s groups

def allocInode (s : Ext2) : Ext2 × Option Nat :=
  allocInodeIn s (List.range s.mount.groupDescCount)

def freeInode (s : Ext2) (inodeNum : Nat) : Ext2 :=
  match inodeGroupAndOffset s.mount inodeNum with
  | none => s
  | some (group, index) =>
    match readGroupDesc s group with
    | none => s
    | some gd =>
      match readBlock s gd.inodeBitmap with
      | none => s
      | some bitmap => writeBlock s gd.inodeBitmap (bitSet bitmap index false)

/-- The loop over the groups of `alloc_block`. -/
def allocBlockIn (s : Ext2) : List Nat → Ext2 × Option Nat
  | [] => (s, none)
  | group :: groups =>
    let blockNum bit := u32 (group * s.mount.blocksPerGroup + bit + s.mount.firstDataBlock)
    match readGroupDesc s group with
    | none => (s, none)
    | some gd =>
      match readBlock s gd.blockBitmap with
      | none => (s, none)
      | some bitmap =>
        match firstFreeBit bitmap s.mount.blocksPerGroup
          fun bit => blockNum bit < s.mount.totalBlocks with
        | some bit => (writeBlock s gd.blockBitmap (bitSet bitmap bit true), some (blockNum bit))
        | none => allocBlockIn s groups

def allocBlock (s : Ext2) : Ext2 × Option Nat :=
  allocBlockIn s (List.range s.mount.groupDescCount)

def freeBlock (s : Ext2) (blockNum : Nat) : Ext2 :=
  let rel := sub32 blockNum s.mount.firstDataBlock
  let group := rel / s.mount.blocksPerGroup
  let index := rel % s.mount.blocksPerGroup
  if s.mount.groupDescCount ≤ group then s
  else
    match readGroupDesc s group with
    | none => s
    | some gd =>
      match readBlock s gd.blockBitmap with
      | none => s
      | some bitmap => writeBlock s gd.blockBitmap (bitSet bitmap index false)

def inodePtrsPerBlock : Nat := ext2BlockSize / 4

/-- A number that the driver takes for a failure when it is read as an `int`. -/
def BadNum (n : Nat) : Prop := n = 0 ∨ 2147483648 ≤ n

instance (n : Nat) : Decidable (BadNum n) := inferInstanceAs (Decidable (_ ∨ _))

/-- `alloc_block` as its callers test it. -/
def allocGoodBlock (s : Ext2) : Ext2 × Option Nat :=
  let r := allocBlock s
  match r.2 with
  | none => (r.1, none)
  | some b => if BadNum b then (r.1, none) else (r.1, some b)

/-- The pointer of block `index` in the indirect block; a missing one is added when `create` is
set. -/
def indirectGetBlock (s : Ext2) (indirectNum index : Nat) (create : Bool) : Ext2 × Nat :=
  match readBlock s indirectNum with
  | none => (s, 0)
  | some indirect =>
    let blockNum := indirect.le32 (4 * index)
    if blockNum = 0 ∧ create then
      let r := allocGoodBlock s
      match r.2 with
      | none => (r.1, 0)
      | some b => (writeBlock r.1 indirectNum (indirect.setLe32 (4 * index) b), b)
    else (s, blockNum)

/-- The number of a block of an inode, `0` when there is none. With `create` set, missing blocks
are allocated and entered into the inode in memory or its indirect block on disk. -/
def inodeGetBlock (s : Ext2) (inode : Ext2Inode) (index : Nat) (create : Bool) :
    Ext2 × Ext2Inode × Nat :=
  if index < 12 then
    if inode.block index = 0 ∧ create then
      let r := allocGoodBlock s
      match r.2 with
      | none => (r.1, inode, 0)
      | some b => (r.1, inode.setBlock index b, b)
    else (s, inode, inode.block index)
  else
    let index := index - 12
    if inodePtrsPerBlock ≤ index then (s, inode, 0)
    else if inode.block 12 = 0 then
      if !create then (s, inode, 0)
      else
        let r := allocGoodBlock s
        match r.2 with
        | none => (r.1, inode, 0)
        | some ind =>
          let r := indirectGetBlock (writeBlock r.1 ind Bytes.zero) ind index create
          (r.1, inode.setBlock 12 ind, r.2)
    else
      let r := indirectGetBlock s (inode.block 12) index create
      (r.1, inode, r.2)

/-- Free one direct block of the inode. -/
def clearDirect (r : Ext2 × Ext2Inode) (k : Nat) : Ext2 × Ext2Inode :=
  if r.2.block k ≠ 0 then (freeBlock r.1 (r.2.block k), r.2.setBlock k 0) else r

/-- Free what one pointer of an indirect block refers to. -/
def freeIndirect (indirect : Ext2Block) (s : Ext2) (j : Nat) : Ext2 :=
  if indirect.le32 (4 * j) ≠ 0 then freeBlock s (indirect.le32 (4 * j)) else s

def inodeClearBlocks (s : Ext2) (inode : Ext2Inode) : Ext2 × Ext2Inode :=
  let r := (List.range 12).foldl clearDirect (s, inode)
  let r :=
    if r.2.block 12 ≠ 0 then
      let s :=
        match readBlock r.1 (r.2.block 12) with
        | none => r.1
        | some indirect => (List.range inodePtrsPerBlock).foldl (freeIndirect indirect) r.1
      (freeBlock s (r.2.block 12), r.2.setBlock 12 0)
    else r
  (r.1, (r.2.setSize 0).setBlocks 0)

end NeuroSpark
