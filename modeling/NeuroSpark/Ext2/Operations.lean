import NeuroSpark.Ext2.Directory

/-!
# ext2: the operations of the backend

The functions of `ext2_backend_ops` that change the file system or go through a handle.
-/

namespace NeuroSpark

open Word

def Ext2.setHandle (s : Ext2) (h : Nat) (x : Ext2Handle) : Ext2 :=
  { s with handles := Function.update s.handles h x }

def Ext2.IsOpen (s : Ext2) (h : Nat) : Prop := h < ext2MaxHandles ∧ (s.handles h).used = true

instance Ext2.decidableIsOpen (s : Ext2) (h : Nat) : Decidable (s.IsOpen h) :=
  inferInstanceAs (Decidable (_ ∧ _))

def ext2HandleAlloc (s : Ext2) : Option Nat :=
  (List.range ext2MaxHandles).find? fun i => !(s.handles i).used

def ext2HandleClose (s : Ext2) (h : Nat) : Ext2 × VfsResult :=
  if ¬ s.IsOpen h then (s, .error .invalidFd)
  else if (s.handles h).refCount > 1 then
    (s.setHandle h { s.handles h with refCount := (s.handles h).refCount - 1 }, .ok 0)
  else (s.setHandle h { s.handles h with used := false, refCount := 0 }, .ok 0)

/-- Free block `i` of an inode, if there is one. -/
def freeBlockOf (inode : Ext2Inode) (s : Ext2) (i : Nat) : Ext2 :=
  let blockNum := (inodeGetBlock s inode i false).2.2
  if BadNum blockNum then s else freeBlock s blockNum

def ext2TruncateInode (s : Ext2) (inodeNum newSize : Nat) : Ext2 × Bool :=
  match readInode s inodeNum with
  | none => (s, false)
  | some inode =>
    let oldBlocks := blockCount inode.size
    let newBlocks := blockCount newSize
    let (s, inode) :=
      if newBlocks < oldBlocks then
        let s := (List.range' newBlocks (oldBlocks - newBlocks)).foldl (freeBlockOf inode) s
        if newBlocks ≤ 12 then inodeClearBlocks s inode else (s, inode)
      else (s, inode)
    let (s, inode) := if newSize = 0 then inodeClearBlocks s inode else (s, inode)
    writeInode s inodeNum (inode.setSize newSize)

/-! ### Opening, reading and writing -/

/-- The inode of a new file, entered into its directory. -/
def ext2Create (s : Ext2) (parent : Nat) (leaf : CString) : Ext2 × Except VfsError Nat :=
  let r := allocInode s
  match r.2 with
  | none => (r.1, .error .noSpace)
  | some inodeNum =>
    if BadNum inodeNum then (r.1, .error .noSpace)
    else
      let w := writeInode r.1 inodeNum (Ext2Inode.fresh (ext2SIfreg ||| 0o644) 0 1 0)
      if !w.2 then (freeInode w.1 inodeNum, .error .io)
      else
        let a := dirAddEntry w.1 parent leaf inodeNum ext2FtRegFile
        if !a.2 then (freeInode a.1 inodeNum, .error .io) else (a.1, .ok inodeNum)

/-- The last part of `ext2_open`, once the inode is known. -/
def ext2OpenInode (s : Ext2) (inodeNum : Nat) (flags : UInt32) : Ext2 × VfsResult :=
  if (readInode s inodeNum).isNone then (s, .error .io)
  else
    let t := if flags &&& vfsOTrunc ≠ 0 then ext2TruncateInode s inodeNum 0 else (s, true)
    if !t.2 then (t.1, .error .io)
    else if (readInode t.1 inodeNum).isNone then (t.1, .error .io)
    else
      match ext2HandleAlloc t.1 with
      | none => (t.1, .error .noSpace)
      | some h => (t.1.setHandle h ⟨true, 1, inodeNum, 0, flags⟩, .ok h)

def ext2Open (s : Ext2) (path : CString) (flags : UInt32) : Ext2 × VfsResult :=
  if !s.mount.mounted then (s, .error .io)
  else
    match resolvePath s path with
    | none => (s, .error .invalidArg)
    | some r =>
      if r.inode = 0 then
        if flags &&& vfsOCreat = 0 then (s, .error .notFound)
        else
          let c := ext2Create s r.parent r.leaf
          match c.2 with
          | .error e => (c.1, .error e)
          | .ok inodeNum => ext2OpenInode c.1 inodeNum flags
      else ext2OpenInode s r.inode flags

/-- Reading is allowed by the open flags. -/
def ext2Readable (flags : UInt32) : Prop :=
  ¬ (flags &&& vfsORdonly = 0 ∧ flags &&& vfsORdwr ≠ vfsORdwr)

/-- Writing is allowed by the open flags. -/
def ext2Writable (flags : UInt32) : Prop :=
  ¬ (flags &&& vfsOWronly = 0 ∧ flags &&& vfsORdwr ≠ vfsORdwr)

instance (flags : UInt32) : Decidable (ext2Readable flags) := inferInstanceAs (Decidable (¬ _))
instance (flags : UInt32) : Decidable (ext2Writable flags) := inferInstanceAs (Decidable (¬ _))

/-- The loop of `ext2_read`; `none` when a block cannot be read. -/
def ext2ReadLoop (s : Ext2) (inode : Ext2Inode) (pos size : Nat) :
    Nat → List UInt8 → Option (List UInt8)
  | 0, acc => some acc
  | fuel + 1, acc =>
    if acc.length < size then
      let absPos := u32 (pos + acc.length)
      let blockOff := absPos % ext2BlockSize
      let blockNum := (inodeGetBlock s inode (absPos / ext2BlockSize) false).2.2
      if BadNum blockNum then some acc
      else
        let chunk := min (ext2BlockSize - blockOff) (size - acc.length)
        match readBlock s blockNum with
        | none => none
        | some blk => ext2ReadLoop s inode pos size fuel (acc ++ blk.slice blockOff chunk)
    else some acc

def ext2Read (s : Ext2) (h size : Nat) : Ext2 × Except VfsError (List UInt8) :=
  if ¬ s.IsOpen h then (s, .error .invalidFd)
  else
    let hd := s.handles h
    if ¬ ext2Readable hd.flags then (s, .error .perm)
    else
      match readInode s hd.inodeNum with
      | none => (s, .error .io)
      | some inode =>
        if inode.size ≤ hd.pos then (s, .ok [])
        else
          let size := min size (inode.size - hd.pos)
          match ext2ReadLoop s inode hd.pos size size [] with
          | none => (s, .error .io)
          | some out => (s.setHandle h { hd with pos := u32 (hd.pos + out.length) }, .ok out)

/-- The loop of `ext2_write`; the number of bytes written, or `none` when no block is left. -/
def ext2WriteLoop (pos : Nat) (src : List UInt8) :
    Nat → Ext2 → Ext2Inode → Nat → Ext2 × Ext2Inode × Option Nat
  | 0, s, inode, total => (s, inode, some total)
  | fuel + 1, s, inode, total =>
    if total < src.length then
      let absPos := u32 (pos + total)
      let blockOff := absPos % ext2BlockSize
      let (s, inode, blockNum) := inodeGetBlock s inode (absPos / ext2BlockSize) true
      if BadNum blockNum then (s, inode, none)
      else
        let chunk := min (ext2BlockSize - blockOff) (src.length - total)
        let blk := (readBlock s blockNum).getD Bytes.zero
        let s := writeBlock s blockNum (blk.patch blockOff ((src.drop total).take chunk))
        ext2WriteLoop pos src fuel s inode (total + chunk)
    else (s, inode, some total)

def ext2Write (s : Ext2) (h : Nat) (buf : List UInt8) : Ext2 × VfsResult :=
  if ¬ s.IsOpen h then (s, .error .invalidFd)
  else
    let hd := s.handles h
    if ¬ ext2Writable hd.flags then (s, .error .perm)
    else
      match readInode s hd.inodeNum with
      | none => (s, .error .io)
      | some inode =>
        match ext2WriteLoop hd.pos buf buf.length s inode 0 with
        | (s, _, none) => (s, .error .noSpace)
        | (s, inode, some total) =>
          let pos := u32 (hd.pos + total)
          let s := s.setHandle h { hd with pos := pos }
          let inode := if inode.size < pos then inode.setSize pos else inode
          let inode := inode.setBlocks (u32 (inode.size + 511) / 512)
          let w := writeInode s hd.inodeNum inode
          if !w.2 then (w.1, .error .io) else (w.1, .ok total)

def ext2Close (s : Ext2) (h : Nat) : Ext2 × VfsResult := ext2HandleClose s h

def ext2Lseek (s : Ext2) (h : Nat) (offset whence : Int) : Ext2 × VfsResult :=
  if ¬ s.IsOpen h then (s, .error .invalidFd)
  else
    let hd := s.handles h
    match readInode s hd.inodeNum with
    | none => (s, .error .io)
    | some inode =>
      if whence ≠ vfsSeekSet ∧ whence ≠ vfsSeekCur ∧ whence ≠ vfsSeekEnd then
        (s, .error .invalidArg)
      else
        let base : Int :=
          if whence = vfsSeekSet then 0
          else if whence = vfsSeekCur then i32 hd.pos
          else i32 inode.size
        let target := i32 (base + offset)
        if target < 0 then (s, .error .invalidArg)
        else (s.setHandle h { hd with pos := target.toNat }, .ok target.toNat)

def ext2Ftruncate (s : Ext2) (h size : Nat) : Ext2 × VfsResult :=
  if ¬ s.IsOpen h then (s, .error .invalidFd)
  else
    let hd := s.handles h
    let t := ext2TruncateInode s hd.inodeNum size
    if !t.2 then (t.1, .error .io)
    else
      (t.1.setHandle h { hd with pos := if hd.pos > size then size else hd.pos }, .ok 0)

/-! ### Operations on paths -/

def ext2TruncatePath (s : Ext2) (path : CString) (size : Nat) : Ext2 × VfsResult :=
  match resolvePath s path with
  | none => (s, .error .invalidArg)
  | some r =>
    if r.inode = 0 then (s, .error .notFound)
    else
      let t := ext2TruncateInode s r.inode size
      if !t.2 then (t.1, .error .io) else (t.1, .ok 0)

def ext2Delete (s : Ext2) (path : CString) : Ext2 × VfsResult :=
  match resolvePath s path with
  | none => (s, .error .invalidArg)
  | some r =>
    if r.inode = 0 ∨ r.parent = 0 then (s, .error .notFound)
    else
      match readInode s r.inode with
      | none => (s, .error .io)
      | some inode =>
        let s := freeInode (inodeClearBlocks s inode).1 r.inode
        let d := dirRemoveEntry s r.parent r.leaf
        if !d.2 then (d.1, .error .io) else (d.1, .ok 0)

def ext2Rename (s : Ext2) (oldPath newPath : CString) : Ext2 × VfsResult :=
  match resolvePath s oldPath, resolvePath s newPath with
  | some old, some new =>
    if old.inode = 0 ∨ old.parent = 0 ∨ new.parent = 0 then (s, .error .notFound)
    else if new.inode ≠ 0 then (s, .error .perm)
    else
      match readInode s old.inode with
      | none => (s, .error .io)
      | some inode =>
        let fileType := if inode.isDir then ext2FtDir else ext2FtRegFile
        let a := dirAddEntry s new.parent new.leaf old.inode fileType
        if !a.2 then (a.1, .error .io)
        else
          let d := dirRemoveEntry a.1 old.parent old.leaf
          if !d.2 then
            let undo := (dirRemoveEntry d.1 new.parent new.leaf).1
            ((dirAddEntry undo old.parent old.leaf old.inode fileType).1, .error .io)
          else (d.1, .ok 0)
  | _, _ => (s, .error .invalidArg)

/-- The first block of a new directory. -/
def newDirBlock (inodeNum parent : Nat) : Ext2Block :=
  let b : Ext2Block := (Bytes.setLe32 Bytes.zero 0 inodeNum).setLe16 4 12
  let b : Ext2Block := b.patch 6 [1, UInt8.ofNat ext2FtDir, dot]
  let b : Ext2Block := (b.setLe32 12 parent).setLe16 16 (ext2BlockSize - 12)
  b.patch 18 [2, UInt8.ofNat ext2FtDir, dot, dot]

/-- Enter a finished directory into its parent, of which `parent` is an earlier copy. -/
def ext2MkdirEnter (s : Ext2) (r : Resolved) (parent : Ext2Inode) (inodeNum : Nat)
    (inode : Ext2Inode) (blockNum : Nat) : Ext2 × VfsResult :=
  let w := writeInode s inodeNum inode
  if !w.2 then (freeInode (freeBlock w.1 blockNum) inodeNum, .error .io)
  else
    let d := dirAddEntry w.1 r.parent r.leaf inodeNum ext2FtDir
    if !d.2 then (freeInode (freeBlock d.1 blockNum) inodeNum, .error .io)
    else
      let parent := parent.setLinksCount (parent.linksCount + 1)
      ((writeInode d.1 r.parent parent).1, .ok 0)

def ext2Mkdir (s : Ext2) (path : CString) (mode : Nat) : Ext2 × VfsResult :=
  match resolvePath s path with
  | none => (s, .error .invalidArg)
  | some r =>
    if r.inode ≠ 0 then (s, .error .perm)
    else if r.parent = 0 ∨ r.leaf = [] then (s, .error .invalidArg)
    else
      match readDirInode s r.parent with
      | none => (s, .error .invalidArg)
      | some parent =>
        let a := allocInode s
        match a.2 with
        | none => (a.1, .error .noSpace)
        | some inodeNum =>
          if BadNum inodeNum then (a.1, .error .noSpace)
          else
            let inode := Ext2Inode.fresh (ext2SIfdir ||| (mode &&& 0o777)) ext2BlockSize 2
              (ext2BlockSize / 512)
            let (s, inode, blockNum) := inodeGetBlock a.1 inode 0 true
            if BadNum blockNum then (freeInode s inodeNum, .error .noSpace)
            else
              let s := writeBlock s blockNum (newDirBlock inodeNum r.parent)
              ext2MkdirEnter s r parent inodeNum inode blockNum

def ext2Rmdir (s : Ext2) (path : CString) : Ext2 × VfsResult :=
  match resolvePath s path with
  | none => (s, .error .invalidArg)
  | some r =>
    if r.inode = 0 ∨ r.parent = 0 then (s, .error .notFound)
    else
      match readDirInode s r.inode with
      | none => (s, .error .invalidArg)
      | some inode =>
        if !ext2IsDirEffectivelyEmpty s r.inode then (s, .error .perm)
        else
          let d := dirRemoveEntry s r.parent r.leaf
          if !d.2 then (d.1, .error .io)
          else
            let s := freeInode (inodeClearBlocks d.1 inode).1 r.inode
            match readInode s r.parent with
            | none => (s, .ok 0)
            | some parent =>
              if parent.linksCount > 0 then
                ((writeInode s r.parent (parent.setLinksCount (parent.linksCount - 1))).1, .ok 0)
              else (s, .ok 0)

def ext2Link (s : Ext2) (oldPath newPath : CString) : Ext2 × VfsResult :=
  match resolvePath s oldPath with
  | none => (s, .error .notFound)
  | some old =>
    if old.inode = 0 then (s, .error .notFound)
    else
      match resolvePath s newPath with
      | none => (s, .error .invalidArg)
      | some new =>
        if new.parent = 0 ∨ new.leaf = [] then (s, .error .invalidArg)
        else
          match readInode s old.inode with
          | none => (s, .error .io)
          | some inode =>
            if inode.isDir then (s, .error .perm)
            else
              let a := dirAddEntry s new.parent new.leaf old.inode ext2FtRegFile
              if !a.2 then (a.1, .error .io)
              else
                let w := writeInode a.1 old.inode (inode.setLinksCount (inode.linksCount + 1))
                if !w.2 then ((dirRemoveEntry w.1 new.parent new.leaf).1, .error .io)
                else (w.1, .ok 0)

def ext2SymlinkMode : Nat := 0xA1ED

/-- The longest target that is stored in the inode. -/
def inlineTargetMax : Nat := 60

/-- Enter a finished symbolic link into its directory. -/
def ext2SymlinkEnter (s : Ext2) (r : Resolved) (linkInode : Nat) (inode : Ext2Inode) :
    Ext2 × VfsResult :=
  let w := writeInode s linkInode inode
  if !w.2 then (freeInode w.1 linkInode, .error .io)
  else
    let a := dirAddEntry w.1 r.parent r.leaf linkInode ext2FtUnknown
    if !a.2 then (freeInode (inodeClearBlocks a.1 inode).1 linkInode, .error .io)
    else (a.1, .ok 0)

def ext2Symlink (s : Ext2) (target linkPath : CString) : Ext2 × VfsResult :=
  if target = [] then (s, .error .invalidArg)
  else
    match resolvePath s linkPath with
    | none => (s, .error .invalidArg)
    | some r =>
      if r.inode ≠ 0 then (s, .error .perm)
      else if r.parent = 0 ∨ r.leaf = [] then (s, .error .invalidArg)
      else if 256 ≤ target.length then (s, .error .invalidArg)
      else
        let a := allocInode s
        match a.2 with
        | none => (a.1, .error .noSpace)
        | some linkInode =>
          if BadNum linkInode then (a.1, .error .noSpace)
          else
            let inode := Ext2Inode.fresh ext2SymlinkMode target.length 1 0
            if target.length ≤ inlineTargetMax then
              ext2SymlinkEnter a.1 r linkInode (inode.patch 40 target)
            else
              let (s, inode, blockNum) := inodeGetBlock a.1 inode 0 true
              if BadNum blockNum then (freeInode s linkInode, .error .noSpace)
              else
                let blk : Ext2Block := Bytes.patch (Bytes.ofFun s.stack) 0 target
                let s := writeBlock s blockNum blk
                ext2SymlinkEnter s r linkInode (inode.setBlocks (ext2BlockSize / 512))

/-- The mode bits that `ext2_readlink` asks for; a regular file has one of them. -/
def ext2SymlinkBits : Nat := 0xA000

/-- The length that `ext2_readlink` copies and returns. It compares as `int`. -/
def readlinkLen (size maxLen : Nat) : Int :=
  if i32 size ≤ 0 then 0 else if i32 maxLen < i32 size then i32 maxLen else i32 size

/-- The returned length and the bytes copied to the caller. -/
def ext2Readlink (s : Ext2) (linkPath : CString) (maxLen : Nat) :
    Except VfsError (Int × List UInt8) :=
  match resolvePath s linkPath with
  | none => .error .notFound
  | some r =>
    if r.inode = 0 then .error .notFound
    else
      match readInode s r.inode with
      | none => .error .io
      | some inode =>
        if inode.mode &&& ext2SymlinkBits = 0 then .error .invalidArg
        else if i32 inode.size ≤ 0 then .ok (0, [])
        else
          let linkLen := readlinkLen inode.size maxLen
          if inode.size ≤ inlineTargetMax then .ok (linkLen, inode.slice 40 linkLen.toNat)
          else
            let blockNum := (inodeGetBlock s inode 0 false).2.2
            if BadNum blockNum then .error .io
            else
              match readBlock s blockNum with
              | none => .error .io
              | some blk => .ok (linkLen, (List.range linkLen.toNat).map (s.bufferGet blk))

end NeuroSpark
