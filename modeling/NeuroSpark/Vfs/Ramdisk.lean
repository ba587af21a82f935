import Mathlib.Logic.Function.Basic
import Mathlib.Data.List.FinRange
import NeuroSpark.Lib.Bytes
import NeuroSpark.Vfs.Types

/-!
# The RAM disk

The backend `ramdisk` of `vfs.c`: 64 files of at most 8192 bytes, held in memory, and 128 handles.
-/

namespace NeuroSpark

open Word

def ramdiskMaxFiles : Nat := 64
def ramdiskMaxHandles : Nat := 128
def ramdiskNameMax : Nat := 23
def ramdiskFileCapacity : Nat := 8192

structure RamdiskFile where
  used : Bool
  name : CString
  size : Nat
  inode : Nat
  mtime : Nat
  data : Bytes 8192

structure RamdiskHandle where
  used : Bool
  entryIdx : Fin 64
  pos : Nat
  flags : UInt32

structure Ramdisk where
  files : Fin 64 → RamdiskFile
  handles : Nat → RamdiskHandle
  nextInode : Nat
  mtimeTick : Nat

/-- An unused handle. The source stores `-1` as its entry, which nothing reads. -/
def RamdiskHandle.closed : RamdiskHandle := ⟨false, 0, 0, 0⟩

/-- The part of `vfs_init` for the RAM disk; the data of the files stay in memory. -/
def Ramdisk.init (s : Ramdisk) : Ramdisk where
  files i := ⟨false, [], 0, 0, 0, (s.files i).data⟩
  handles _ := RamdiskHandle.closed
  nextInode := 1
  mtimeTick := 1

def Ramdisk.IsOpen (s : Ramdisk) (h : Nat) : Prop :=
  h < ramdiskMaxHandles ∧ (s.handles h).used = true

instance Ramdisk.decidableIsOpen (s : Ramdisk) (h : Nat) : Decidable (s.IsOpen h) :=
  inferInstanceAs (Decidable (_ ∧ _))

def Ramdisk.setFile (s : Ramdisk) (i : Fin 64) (f : RamdiskFile) : Ramdisk :=
  { s with files := Function.update s.files i f }

def Ramdisk.setHandle (s : Ramdisk) (h : Nat) (x : RamdiskHandle) : Ramdisk :=
  { s with handles := Function.update s.handles h x }

/-- Store a file with the next modification time. -/
def Ramdisk.touch (s : Ramdisk) (i : Fin 64) (f : RamdiskFile) : Ramdisk :=
  { s.setFile i { f with mtime := s.mtimeTick } with mtimeTick := u32 (s.mtimeTick + 1) }

/-- One component of at most 23 characters, with or without a slash before it. -/
def ramdiskExtractName (path : CString) : Option CString :=
  let rest := if path.head? = some slash then path.tail else path
  let nm := (rest.takeWhile (· ≠ slash)).take ramdiskNameMax
  if nm = [] ∨ rest.length ≠ nm.length then none else some nm

def ramdiskFindEntry (s : Ramdisk) (nm : CString) : Option (Fin 64) :=
  (List.finRange 64).find? fun i => (s.files i).used && (s.files i).name == nm

def ramdiskAllocEntry (s : Ramdisk) : Option (Fin 64) :=
  (List.finRange 64).find? fun i => !(s.files i).used

def ramdiskAllocHandle (s : Ramdisk) : Option Nat :=
  (List.range ramdiskMaxHandles).find? fun i => !(s.handles i).used

/-- The last part of `ramdisk_open`, once the file is known. -/
def ramdiskOpenEntry (s : Ramdisk) (i : Fin 64) (flags : UInt32) : Ramdisk × VfsResult :=
  match ramdiskAllocHandle s with
  | none => (s, .error .noSpace)
  | some h => (s.setHandle h ⟨true, i, 0, flags⟩, .ok h)

def ramdiskOpen (s : Ramdisk) (path : CString) (flags : UInt32) : Ramdisk × VfsResult :=
  match ramdiskExtractName path with
  | none => (s, .error .invalidArg)
  | some nm =>
    match ramdiskFindEntry s nm with
    | none =>
      if flags &&& vfsOCreat = 0 then (s, .error .notFound)
      else
        match ramdiskAllocEntry s with
        | none => (s, .error .noSpace)
        | some i =>
          let file := { s.files i with used := true, name := nm, size := 0, inode := s.nextInode }
          ramdiskOpenEntry ({ s with nextInode := u32 (s.nextInode + 1) }.touch i file) i flags
    | some i =>
      if flags &&& vfsOTrunc ≠ 0 then
        ramdiskOpenEntry (s.touch i { s.files i with size := 0 }) i flags
      else ramdiskOpenEntry s i flags

/-- Reading is allowed by the open flags. -/
def ramdiskReadable (flags : UInt32) : Prop :=
  ¬ (flags &&& vfsORdonly = 0 ∧ flags &&& vfsORdwr ≠ vfsORdwr)

/-- Writing is allowed by the open flags. -/
def ramdiskWritable (flags : UInt32) : Prop :=
  ¬ (flags &&& vfsOWronly = 0 ∧ flags &&& vfsORdwr ≠ vfsORdwr)

instance (flags : UInt32) : Decidable (ramdiskReadable flags) := inferInstanceAs (Decidable (¬ _))
instance (flags : UInt32) : Decidable (ramdiskWritable flags) := inferInstanceAs (Decidable (¬ _))

def ramdiskRead (s : Ramdisk) (h size : Nat) : Ramdisk × Except VfsError (List UInt8) :=
  if ¬ s.IsOpen h then (s, .error .invalidArg)
  else if ¬ ramdiskReadable (s.handles h).flags then (s, .error .perm)
  else
    let hd := s.handles h
    let file := s.files hd.entryIdx
    if file.size ≤ hd.pos then (s, .ok [])
    else
      let size := min size (file.size - hd.pos)
      (s.setHandle h { hd with pos := hd.pos + size }, .ok (file.data.slice hd.pos size))

def ramdiskWrite (s : Ramdisk) (h : Nat) (buf : List UInt8) : Ramdisk × VfsResult :=
  if ¬ s.IsOpen h then (s, .error .invalidArg)
  else if ¬ ramdiskWritable (s.handles h).flags then (s, .error .perm)
  else
    let hd := s.handles h
    let file := s.files hd.entryIdx
    if ramdiskFileCapacity ≤ hd.pos then (s, .error .noSpace)
    else
      let size := min buf.length (ramdiskFileCapacity - hd.pos)
      let pos := hd.pos + size
      let file := { file with
        data := file.data.patch hd.pos (buf.take size)
        size := if pos > file.size then pos else file.size }
      ((s.setHandle h { hd with pos := pos }).touch hd.entryIdx file, .ok size)

def ramdiskClose (s : Ramdisk) (h : Nat) : Ramdisk × VfsResult :=
  if ¬ s.IsOpen h then (s, .error .invalidArg)
  else (s.setHandle h RamdiskHandle.closed, .ok 0)

def ramdiskLseek (s : Ramdisk) (h : Nat) (offset whence : Int) : Ramdisk × VfsResult :=
  if ¬ s.IsOpen h then (s, .error .invalidArg)
  else
    let hd := s.handles h
    let fileSize := i32 (s.files hd.entryIdx).size
    if whence ≠ vfsSeekSet ∧ whence ≠ vfsSeekCur ∧ whence ≠ vfsSeekEnd then
      (s, .error .invalidArg)
    else
      let newPos : Int :=
        if whence = vfsSeekSet then i32 offset
        else if whence = vfsSeekCur then i32 (i32 hd.pos + offset)
        else i32 (fileSize + offset)
      let newPos := if newPos < 0 then 0 else newPos
      let newPos := if newPos > fileSize then fileSize else newPos
      (s.setHandle h { hd with pos := ofInt32 newPos }, .ok newPos.toNat)

def ramdiskFtruncate (s : Ramdisk) (h size : Nat) : Ramdisk × VfsResult :=
  if ¬ s.IsOpen h then (s, .error .invalidFd)
  else
    let hd := s.handles h
    let size := min size ramdiskFileCapacity
    let s := s.setHandle h { hd with pos := if hd.pos > size then size else hd.pos }
    (s.touch hd.entryIdx { s.files hd.entryIdx with size := size }, .ok 0)

def ramdiskDelete (s : Ramdisk) (path : CString) : Ramdisk × VfsResult :=
  match ramdiskExtractName path with
  | none => (s, .error .invalidArg)
  | some nm =>
    match ramdiskFindEntry s nm with
    | none => (s, .error .notFound)
    | some i =>
      if ∃ h ∈ List.range ramdiskMaxHandles, (s.handles h).used = true ∧ (s.handles h).entryIdx = i
      then (s, .error .perm)
      else (s.setFile i ⟨false, [], 0, 0, 0, (s.files i).data⟩, .ok 0)

def ramdiskRename (s : Ramdisk) (oldPath newPath : CString) : Ramdisk × VfsResult :=
  match ramdiskExtractName oldPath, ramdiskExtractName newPath with
  | some oldName, some newName =>
    match ramdiskFindEntry s oldName with
    | none => (s, .error .notFound)
    | some i =>
      match ramdiskFindEntry s newName with
      | none => (s.touch i { s.files i with name := newName }, .ok 0)
      | some j =>
        if j ≠ i then (s, .error .perm)
        else (s.touch i { s.files i with name := newName }, .ok 0)
  | _, _ => (s, .error .invalidArg)

/-- The handles on a file that was cut to `size` bytes come back to its end. -/
def Ramdisk.clampHandles (s : Ramdisk) (i : Fin 64) (size : Nat) : Ramdisk :=
  { s with
    handles := fun h =>
      let hd := s.handles h
      if h < ramdiskMaxHandles ∧ hd.used = true ∧ hd.entryIdx = i ∧ hd.pos > size then
        { hd with pos := size }
      else hd }

def ramdiskTruncate (s : Ramdisk) (path : CString) (size : Nat) : Ramdisk × VfsResult :=
  match ramdiskExtractName path with
  | none => (s, .error .invalidArg)
  | some nm =>
    match ramdiskFindEntry s nm with
    | none => (s, .error .notFound)
    | some i =>
      let size := min size ramdiskFileCapacity
      ((s.touch i { s.files i with size := size }).clampHandles i size, .ok 0)

/-- The calls on the RAM disk. -/
inductive RamdiskOp where
  | openFile (path : CString) (flags : UInt32)
  | read (h size : Nat)
  | write (h : Nat) (buf : List UInt8)
  | close (h : Nat)
  | lseek (h : Nat) (offset whence : Int)
  | delete (path : CString)
  | rename (oldPath newPath : CString)
  | truncate (path : CString) (size : Nat)
  | ftruncate (h size : Nat)

/-- What a call returns: a number, or the bytes read. -/
inductive RamdiskAnswer where
  | number (r : VfsResult)
  | bytes (r : Except VfsError (List UInt8))
  deriving DecidableEq

def ramdiskStep (s : Ramdisk) : RamdiskOp → Ramdisk × RamdiskAnswer
  | .openFile path flags => (ramdiskOpen s path flags).map id .number
  | .read h size => (ramdiskRead s h size).map id .bytes
  | .write h buf => (ramdiskWrite s h buf).map id .number
  | .close h => (ramdiskClose s h).map id .number
  | .lseek h offset whence => (ramdiskLseek s h offset whence).map id .number
  | .delete path => (ramdiskDelete s path).map id .number
  | .rename oldPath newPath => (ramdiskRename s oldPath newPath).map id .number
  | .truncate path size => (ramdiskTruncate s path size).map id .number
  | .ftruncate h size => (ramdiskFtruncate s h size).map id .number

end NeuroSpark
