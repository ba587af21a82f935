import NeuroSpark.Disk.PageCache
import NeuroSpark.Vfs.Types

/-!
# The tiny file system

The directory is one array of 25 file entries of 24 bytes, kept in memory (`root_directory`) and
stored in the sector `TFS_DIR_LBA`, which holds its first 512 bytes. The file in slot `i` has its
data from sector `TFS_DATA_START + i` on. Everything goes through the page cache.
-/

namespace NeuroSpark

open Word

def tfsDirLba : Nat := 150
def tfsDataStart : Nat := 200
def tfsMaxFiles : Nat := 25
def tfsSectorSize : Nat := 512
def tfsMaxHandles : Nat := 256

/-- The memory of `root_directory`: `FileEntry[TFS_MAX_FILES]`, each entry a name of 12 bytes and
the words `lba`, `size` and `flags`. -/
abbrev TfsDirectory := Bytes 600

namespace TfsDirectory

def name (d : TfsDirectory) (i : Fin 25) : CString := cString (d.slice (24 * i) 12)
def lba (d : TfsDirectory) (i : Fin 25) : Nat := d.le32 (24 * i + 12)
def size (d : TfsDirectory) (i : Fin 25) : Nat := d.le32 (24 * i + 16)
def flags (d : TfsDirectory) (i : Fin 25) : Nat := d.le32 (24 * i + 20)

/-- Copy a name up to and including its NUL; the bytes after it stay. -/
def setName (d : TfsDirectory) (i : Fin 25) (nm : CString) : TfsDirectory :=
  d.patch (24 * i) (nm ++ [0])

def setLba (d : TfsDirectory) (i : Fin 25) (v : Nat) : TfsDirectory := d.setLe32 (24 * i + 12) v
def setSize (d : TfsDirectory) (i : Fin 25) (v : Nat) : TfsDirectory := d.setLe32 (24 * i + 16) v
def setFlags (d : TfsDirectory) (i : Fin 25) (v : Nat) : TfsDirectory := d.setLe32 (24 * i + 20) v

end TfsDirectory

def clearFileEntry (d : TfsDirectory) (i : Fin 25) : TfsDirectory :=
  let d : TfsDirectory := d.patch (24 * i) (List.replicate 12 0)
  ((d.setLba i 0).setSize i 0).setFlags i 0

/-- Skip the leading slashes and keep at most 11 bytes of the first component. -/
def normalizeTfsName (path : CString) : Option CString :=
  match path.dropWhile (· = slash) with
  | [] => none
  | rest => some ((rest.takeWhile (· ≠ slash)).take 11)

def tfsFindEntryByName (d : TfsDirectory) (nm : CString) : Option (Fin 25) :=
  (List.finRange 25).find? fun i => d.flags i == 1 && strCaseEq (d.name i) nm

def findFreeSlot (d : TfsDirectory) : Option (Fin 25) :=
  (List.finRange 25).find? fun i => d.flags i == 0

structure TfsHandle where
  used : Bool
  refCount : Nat
  entryIdx : Fin 25
  pos : Nat
  flags : UInt32

structure Tfs where
  disk : Disk
  ataDiskAvailable : Bool
  rootDirectory : TfsDirectory
  handles : Nat → TfsHandle

def Tfs.setHandle (s : Tfs) (h : Nat) (x : TfsHandle) : Tfs :=
  { s with handles := Function.update s.handles h x }

/-- The handle exists and is open. -/
def Tfs.IsOpen (s : Tfs) (h : Nat) : Prop := h < tfsMaxHandles ∧ (s.handles h).used = true

instance (s : Tfs) (h : Nat) : Decidable (s.IsOpen h) := inferInstanceAs (Decidable (_ ∧ _))

/-- `disk_read_sector(TFS_DIR_LBA, root_directory)`: the sector lands on the first 512 bytes. -/
def Tfs.loadDirectory (s : Tfs) : Tfs :=
  let r := diskReadSector s.disk tfsDirLba s.rootDirectory.resize
  { s with disk := r.1, rootDirectory := s.rootDirectory.overlay r.2 }

/-- `disk_write_sector(TFS_DIR_LBA, root_directory)`. -/
def Tfs.storeDirectory (s : Tfs) : Tfs :=
  { s with disk := diskWriteSector s.disk tfsDirLba s.rootDirectory.resize }

/-- Change the directory in memory and store it. -/
def Tfs.updateDirectory (s : Tfs) (d : TfsDirectory) : Tfs :=
  { s with rootDirectory := d }.storeDirectory

def tfsAllocHandle (s : Tfs) : Option Nat :=
  (List.range tfsMaxHandles).find? fun i => !(s.handles i).used

/-- The directory entry of a new file in slot `i`. -/
def TfsDirectory.create (d : TfsDirectory) (i : Fin 25) (nm : CString) : TfsDirectory :=
  (((d.setName i nm).setLba i (tfsDataStart + i)).setSize i 0).setFlags i 1

/-- The last part of `tfs_open`, once the slot of the file is known. -/
def tfsOpenEntry (s : Tfs) (i : Fin 25) (flags : UInt32) : Tfs × VfsResult :=
  let s := if flags &&& vfsOTrunc ≠ 0 then s.updateDirectory (s.rootDirectory.setSize i 0) else s
  match tfsAllocHandle s with
  | none => (s, .error .noSpace)
  | some h => (s.setHandle h ⟨true, 1, i, 0, flags⟩, .ok h)

def tfsOpen (s : Tfs) (path : CString) (flags : UInt32) : Tfs × VfsResult :=
  if !s.ataDiskAvailable then (s, .error .io)
  else
    match normalizeTfsName path with
    | none => (s, .error .invalidArg)
    | some nm =>
      let s := s.loadDirectory
      match tfsFindEntryByName s.rootDirectory nm with
      | some i => tfsOpenEntry s i flags
      | none =>
        if flags &&& vfsOCreat = 0 then (s, .error .notFound)
        else
          match findFreeSlot s.rootDirectory with
          | none => (s, .error .noSpace)
          | some i => tfsOpenEntry (s.updateDirectory (s.rootDirectory.create i nm)) i flags

def tfsClose (s : Tfs) (h : Nat) : Tfs × VfsResult :=
  if ¬ s.IsOpen h then (s, .error .invalidFd)
  else if (s.handles h).refCount > 1 then
    (s.setHandle h { s.handles h with refCount := (s.handles h).refCount - 1 }, .ok 0)
  else (s.setHandle h { s.handles h with used := false, refCount := 0 }, .ok 0)

/-- The loop of `tfs_read`; `sector` is its local buffer and `acc` what it has copied out. -/
def tfsReadLoop (lba₀ pos size : Nat) :
    Nat → Disk → Sector → List UInt8 → Disk × List UInt8
  | 0, disk, _, acc => (disk, acc)
  | fuel + 1, disk, sector, acc =>
    if acc.length < size then
      let absPos := u32 (pos + acc.length)
      let sectorOff := absPos % tfsSectorSize
      let chunk := min (tfsSectorSize - sectorOff) (size - acc.length)
      let lba := u32 (lba₀ + absPos / tfsSectorSize)
      let r := diskReadSector disk lba sector
      tfsReadLoop lba₀ pos size fuel r.1 r.2 (acc ++ r.2.slice sectorOff chunk)
    else (disk, acc)

/-- Reading is allowed by the open flags. -/
def tfsReadable (flags : UInt32) : Prop :=
  ¬ (flags &&& vfsORdonly = 0 ∧ flags &&& vfsORdwr ≠ vfsORdwr)

/-- Writing is allowed by the open flags, as `tfs_write` tests them. -/
def tfsWritable (flags : UInt32) : Prop :=
  ¬ (flags &&& vfsOWronly = 0 ∧ flags &&& vfsORdwr = 0)

instance (flags : UInt32) : Decidable (tfsReadable flags) := inferInstanceAs (Decidable (¬ _))
instance (flags : UInt32) : Decidable (tfsWritable flags) := inferInstanceAs (Decidable (¬ _))

def tfsRead (s : Tfs) (h size : Nat) : Tfs × Except VfsError (List UInt8) :=
  if ¬ s.IsOpen h then (s, .error .invalidFd)
  else if size = 0 then (s, .error .invalidArg)
  else if ¬ tfsReadable (s.handles h).flags then (s, .error .perm)
  else
    let hd := s.handles h
    let fileSize := s.rootDirectory.size hd.entryIdx
    if fileSize ≤ hd.pos then (s, .ok [])
    else
      let size := min size (fileSize - hd.pos)
      let r := tfsReadLoop (s.rootDirectory.lba hd.entryIdx) hd.pos size size s.disk Bytes.zero []
      ({ s with disk := r.1 }.setHandle h { hd with pos := u32 (hd.pos + r.2.length) }, .ok r.2)

/-- The loop of `tfs_write`; it stops at the end of the data area. -/
def tfsWriteLoop (lba₀ pos : Nat) (src : List UInt8) :
    Nat → Disk → Sector → Nat → Disk × Nat
  | 0, disk, _, total => (disk, total)
  | fuel + 1, disk, sector, total =>
    if total < src.length then
      let absPos := u32 (pos + total)
      let sectorOff := absPos % tfsSectorSize
      let lba := u32 (lba₀ + absPos / tfsSectorSize)
      if tfsDataStart + tfsMaxFiles ≤ lba then (disk, total)
      else
        let chunk := min (tfsSectorSize - sectorOff) (src.length - total)
        let r := diskReadSector disk lba sector
        let sector := r.2.patch sectorOff ((src.drop total).take chunk)
        tfsWriteLoop lba₀ pos src fuel (diskWriteSector r.1 lba sector) sector (total + chunk)
    else (disk, total)

def tfsWrite (s : Tfs) (h : Nat) (buf : List UInt8) : Tfs × VfsResult :=
  if ¬ s.IsOpen h then (s, .error .invalidFd)
  else if buf.length = 0 then (s, .error .invalidArg)
  else if ¬ tfsWritable (s.handles h).flags then (s, .error .perm)
  else
    let hd := s.handles h
    let r := tfsWriteLoop (s.rootDirectory.lba hd.entryIdx) hd.pos buf buf.length s.disk Bytes.zero 0
    let pos := u32 (hd.pos + r.2)
    let s := { s with disk := r.1 }.setHandle h { hd with pos := pos }
    if s.rootDirectory.size hd.entryIdx < pos then
      (s.updateDirectory (s.rootDirectory.setSize hd.entryIdx pos), .ok r.2)
    else (s, .ok r.2)

def tfsLseek (s : Tfs) (h : Nat) (offset whence : Int) : Tfs × VfsResult :=
  if ¬ s.IsOpen h then (s, .error .invalidFd)
  else
    let hd := s.handles h
    if whence ≠ vfsSeekSet ∧ whence ≠ vfsSeekCur ∧ whence ≠ vfsSeekEnd then
      (s, .error .invalidArg)
    else
      let base : Int :=
        if whence = vfsSeekSet then 0
        else if whence = vfsSeekCur then i32 hd.pos
        else i32 (s.rootDirectory.size hd.entryIdx)
      let target := i32 (base + offset)
      if target < 0 then (s, .error .invalidArg)
      else (s.setHandle h { hd with pos := target.toNat }, .ok target.toNat)

def tfsFtruncate (s : Tfs) (h size : Nat) : Tfs × VfsResult :=
  if ¬ s.IsOpen h then (s, .error .invalidFd)
  else
    let hd := s.handles h
    let s := s.setHandle h { hd with pos := if hd.pos > size then size else hd.pos }
    (s.updateDirectory (s.rootDirectory.setSize hd.entryIdx size), .ok 0)

def tfsDelete (s : Tfs) (path : CString) : Tfs × VfsResult :=
  if !s.ataDiskAvailable then (s, .error .io)
  else
    match normalizeTfsName path with
    | none => (s, .error .invalidArg)
    | some nm =>
      let s := s.loadDirectory
      match tfsFindEntryByName s.rootDirectory nm with
      | none => (s, .error .notFound)
      | some i => (s.updateDirectory (clearFileEntry s.rootDirectory i), .ok 0)

def tfsRename (s : Tfs) (oldPath newPath : CString) : Tfs × VfsResult :=
  if !s.ataDiskAvailable then (s, .error .io)
  else
    match normalizeTfsName oldPath, normalizeTfsName newPath with
    | some oldName, some newName =>
      let s := s.loadDirectory
      match tfsFindEntryByName s.rootDirectory oldName with
      | none => (s, .error .notFound)
      | some i =>
        match tfsFindEntryByName s.rootDirectory newName with
        | some j =>
          if j ≠ i then (s, .error .perm)
          else (s.updateDirectory (s.rootDirectory.setName i newName), .ok 0)
        | none => (s.updateDirectory (s.rootDirectory.setName i newName), .ok 0)
    | _, _ => (s, .error .invalidArg)

def tfsTruncate (s : Tfs) (path : CString) (size : Nat) : Tfs × VfsResult :=
  if !s.ataDiskAvailable then (s, .error .io)
  else
    match normalizeTfsName path with
    | none => (s, .error .invalidArg)
    | some nm =>
      let s := s.loadDirectory
      match tfsFindEntryByName s.rootDirectory nm with
      | none => (s, .error .notFound)
      | some i => (s.updateDirectory (s.rootDirectory.setSize i size), .ok 0)

end NeuroSpark
