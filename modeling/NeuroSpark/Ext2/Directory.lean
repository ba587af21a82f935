import NeuroSpark.Ext2.Blocks

/-!
# ext2: directories and paths

A directory block is a chain of records, each with an inode number, the length of the record, the
length of the name, a file type and the name.
-/

namespace NeuroSpark

open Word

def entInode (b : Ext2Block) (off : Nat) : Nat := b.le32 off
def entRecLen (b : Ext2Block) (off : Nat) : Nat := b.le16 (off + 4)
def entNameLen (b : Ext2Block) (off : Nat) : Nat := (b.get (off + 6)).toNat

lemma entNameLen_lt (b : Ext2Block) (off : Nat) : entNameLen b off < 256 := UInt8.toNat_lt _

/-- The name of a record, as the C string that the driver copies it to. -/
def entName (s : Ext2) (b : Ext2Block) (off : Nat) : CString :=
  cString ((List.range (entNameLen b off)).map fun i => s.bufferGet b (off + 8 + i))

/-- The offsets of the records that a loop over a block visits from `off` on. -/
def dirOffsetsFrom (b : Ext2Block) : Nat → Nat → List Nat
  | 0, _ => []
  | fuel + 1, off =>
    if off + 8 ≤ ext2BlockSize then
      if entRecLen b off = 0 then []
      else off :: dirOffsetsFrom b fuel (off + entRecLen b off)
    else []

/-- Every record is at least one byte long, so 1024 rounds are enough. -/
def dirOffsets (b : Ext2Block) : List Nat := dirOffsetsFrom b 1024 0

/-- The space that a record with a name of this length needs. -/
def recordLen (nameLen : Nat) : Nat := (8 + nameLen + 3) / 4 * 4

/-- Store a record. The NUL after the name is written even where the name fills the record. -/
def putEntry (b : Ext2Block) (off inodeNum recLen fileType : Nat) (name : CString) : Ext2Block :=
  let b : Ext2Block := (b.setLe32 off inodeNum).setLe16 (off + 4) recLen
  let b : Ext2Block := b.patch (off + 6) [UInt8.ofNat name.length, UInt8.ofNat fileType]
  b.patch (off + 8) (name ++ [0])

/-- The number of blocks of a file of this size. -/
def blockCount (size : Nat) : Nat := u32 (size + 1023) / ext2BlockSize

/-- A block of a directory, when it has one. -/
def dirBlock (s : Ext2) (dirInode : Ext2Inode) (b : Nat) : Option (Nat × Ext2Block) :=
  let blockNum := (inodeGetBlock s dirInode b false).2.2
  if BadNum blockNum then none else (readBlock s blockNum).map fun blk => (blockNum, blk)

/-- The record of a name in one block. -/
def findEntry (s : Ext2) (blk : Ext2Block) (name : CString) : Option Nat :=
  (dirOffsets blk).find? fun off =>
    entInode blk off ≠ 0 && 0 < entNameLen blk off && entName s blk off = name

/-- `read_inode`, and the test that the inode is a directory. -/
def readDirInode (s : Ext2) (inodeNum : Nat) : Option Ext2Inode :=
  (readInode s inodeNum).filter Ext2Inode.isDir

def dirLookup (s : Ext2) (dirInodeNum : Nat) (name : CString) : Option Nat :=
  match readDirInode s dirInodeNum with
  | none => none
  | some dirInode =>
    (List.range (blockCount dirInode.size)).findSome? fun b =>
      match dirBlock s dirInode b with
      | none => none
      | some (_, blk) => (findEntry s blk name).map (entInode blk)

/-- The next component, at most 255 characters of it, and the path after it. -/
def parseComponent (path : CString) : Option (CString × CString) :=
  match path.dropWhile (· = slash) with
  | [] => none
  | rest =>
    let component := (rest.takeWhile (· ≠ slash)).take ext2NameMax
    some (component, (rest.drop component.length).dropWhile (· = slash))

/-- The inode a path names (`0` for none), the directory in which its last component was looked up
and that component. A path whose directory is missing stops at the missing component. -/
structure Resolved where
  inode : Nat
  parent : Nat
  leaf : CString
  deriving DecidableEq

/-- The loop of `resolve_path`. -/
def resolveFrom (s : Ext2) : Nat → Nat → CString → Option Resolved
  | 0, _, _ => none
  | fuel + 1, current, cursor =>
    match parseComponent cursor with
    | none => none
    | some (component, rest) =>
      if rest = [] then some ⟨(dirLookup s current component).getD 0, current, component⟩
      else
        match dirLookup s current component with
        | none => some ⟨0, current, component⟩
        | some next => resolveFrom s fuel next rest

def resolvePath (s : Ext2) (path : CString) : Option Resolved :=
  if path.head? ≠ some slash then none
  else if path = [slash] then some ⟨ext2RootInode, 0, []⟩
  else resolveFrom s path.length ext2RootInode path

/-- A record with enough room behind it for a new one. -/
def hasRoom (blk : Ext2Block) (nameLen off : Nat) : Bool :=
  entInode blk off ≠ 0 && off + entRecLen blk off ≤ ext2BlockSize &&
    recordLen nameLen ≤ (entRecLen blk off + 65536 - recordLen (entNameLen blk off)) % 65536

/-- Split a record and put a new one behind it. -/
def splitEntry (blk : Ext2Block) (off inodeNum fileType : Nat) (name : CString) : Ext2Block :=
  let actualLen := recordLen (entNameLen blk off)
  let spaceLeft := (entRecLen blk off + 65536 - actualLen) % 65536
  putEntry (blk.setLe16 (off + 4) actualLen) (off + actualLen) inodeNum spaceLeft fileType name

/-- The loop of `dir_add_entry` over the blocks from `b` on. -/
def dirAddEntryFrom (dirInodeNum : Nat) (name : CString) (inodeNum fileType : Nat)
    (blockCount : Nat) : Nat → Ext2 → Ext2Inode → Nat → Ext2 × Bool
  | 0, s, _, _ => (s, false)
  | fuel + 1, s, dirInode, b =>
    let (s, dirInode, blockNum) := inodeGetBlock s dirInode b true
    if BadNum blockNum then (s, false)
    else
      match readBlock s blockNum with
      | none => (s, false)
      | some blk =>
        match (dirOffsets blk).find? (hasRoom blk name.length) with
        | some off =>
          let s := writeBlock s blockNum (splitEntry blk off inodeNum fileType name)
          if dirInode.size < u32 ((b + 1) * ext2BlockSize) then
            ((writeInode s dirInodeNum (dirInode.setSize (u32 ((b + 1) * ext2BlockSize)))).1, true)
          else (s, true)
        | none =>
          if blockCount ≤ b then
            let s := writeBlock s blockNum (putEntry Bytes.zero 0 inodeNum ext2BlockSize fileType name)
            writeInode s dirInodeNum (dirInode.setSize (u32 (dirInode.size + ext2BlockSize)))
          else dirAddEntryFrom dirInodeNum name inodeNum fileType blockCount fuel s dirInode (b + 1)

def dirAddEntry (s : Ext2) (dirInodeNum : Nat) (name : CString) (inodeNum fileType : Nat) :
    Ext2 × Bool :=
  match readDirInode s dirInodeNum with
  | none => (s, false)
  | some dirInode =>
    let count := blockCount dirInode.size
    dirAddEntryFrom dirInodeNum (name.take ext2NameMax) inodeNum fileType count (count + 1) s
      dirInode 0

/-- The first record of a name, with the record before it. -/
def findEntryPrev (s : Ext2) (blk : Ext2Block) (name : CString) :
    Option Nat → List Nat → Option (Option Nat × Nat)
  | _, [] => none
  | prev, off :: offs =>
    if entInode blk off ≠ 0 ∧ entName s blk off = name then some (prev, off)
    else findEntryPrev s blk name (some off) offs

/-- Give the space of a record to the one before it, or clear the first record of a block. -/
def dropEntry (blk : Ext2Block) (prev : Option Nat) (off : Nat) : Ext2Block :=
  match prev with
  | some p => blk.setLe16 (p + 4) (entRecLen blk p + entRecLen blk off)
  | none => blk.setLe32 off 0

/-- The loop of `dir_remove_entry` over the blocks. -/
def dirRemoveEntryIn (s : Ext2) (dirInode : Ext2Inode) (name : CString) : List Nat → Ext2 × Bool
  | [] => (s, false)
  | b :: bs =>
    match dirBlock s dirInode b with
    | none => dirRemoveEntryIn s dirInode name bs
    | some (blockNum, blk) =>
      match findEntryPrev s blk name none (dirOffsets blk) with
      | some (prev, off) => (writeBlock s blockNum (dropEntry blk prev off), true)
      | none => dirRemoveEntryIn s dirInode name bs

def dirRemoveEntry (s : Ext2) (dirInodeNum : Nat) (name : CString) : Ext2 × Bool :=
  match readDirInode s dirInodeNum with
  | none => (s, false)
  | some dirInode => dirRemoveEntryIn s dirInode name (List.range (blockCount dirInode.size))

def dot : UInt8 := 46

def ext2IsDirEffectivelyEmpty (s : Ext2) (inodeNum : Nat) : Bool :=
  match readDirInode s inodeNum with
  | none => false
  | some dirInode =>
    (List.range (blockCount dirInode.size)).all fun b =>
      match dirBlock s dirInode b with
      | none => true
      | some (_, blk) =>
        (dirOffsets blk).all fun off =>
          entInode blk off = 0 || entNameLen blk off = 0 || entName s blk off = [dot] ||
            entName s blk off = [dot, dot]

end NeuroSpark
