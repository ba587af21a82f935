import Mathlib.Data.Fintype.Prod
import NeuroSpark.Lib.Bytes
import NeuroSpark.Vfs.Types

/-!
# The virtual file system

Mounts, the global descriptor table, the descriptor maps of the tasks and pipes. The file system
backends are a table of functions over a state `σ` that they share, one row for each backend in
`β`; pipes are a backend of the VFS itself.
-/

namespace NeuroSpark

/-- The functions of a backend that the descriptor operations call. -/
structure VfsBackendOps (σ : Type) where
  openFile : σ → CString → UInt32 → σ × VfsResult
  read : σ → Nat → Nat → σ × Except VfsError (List UInt8)
  write : σ → Nat → List UInt8 → σ × VfsResult
  close : σ → Nat → σ × VfsResult
  lseek : σ → Nat → Int → Int → σ × VfsResult
  ftruncate : σ → Nat → Nat → σ × VfsResult

/-- The backend of an open file. -/
inductive VfsOps (β : Type) where
  | pipe
  | file (b : β)
  deriving DecidableEq

structure VfsMount (β : Type) where
  used : Bool
  mountPath : CString
  mountLen : Nat
  ops : Option β

/-- An entry of the global table. `none` is the handle `-1` and the null backend of a closed
entry. -/
structure VfsFd (β : Type) where
  used : Bool
  ops : Option (VfsOps β)
  backendHandle : Option Nat
  flags : UInt32
  refCount : Nat

structure VfsPipe where
  used : Bool
  data : Bytes 1024
  head : Nat
  tail : Nat
  count : Nat
  readRefs : Nat
  writeRefs : Nat

structure VfsPipeHandle where
  used : Bool
  pipeIdx : Fin 64
  writable : Bool

/-- The static storage of `vfs.c`, with the state of the backends. -/
structure Vfs (β σ : Type) where
  mounts : Fin 8 → VfsMount β
  fdTable : Fin 512 → VfsFd β
  taskFdMap : Fin 8 × Fin 256 → Int
  pipes : Fin 64 → VfsPipe
  pipeHandles : Fin 128 → VfsPipeHandle
  files : σ

variable {β σ : Type}

def Vfs.setFd (s : Vfs β σ) (g : Fin 512) (fd : VfsFd β) : Vfs β σ :=
  { s with fdTable := Function.update s.fdTable g fd }

def Vfs.setTaskFd (s : Vfs β σ) (p : Fin 8 × Fin 256) (v : Int) : Vfs β σ :=
  { s with taskFdMap := Function.update s.taskFdMap p v }

def Vfs.setPipe (s : Vfs β σ) (i : Fin 64) (p : VfsPipe) : Vfs β σ :=
  { s with pipes := Function.update s.pipes i p }

def Vfs.setPipeHandle (s : Vfs β σ) (i : Fin 128) (h : VfsPipeHandle) : Vfs β σ :=
  { s with pipeHandles := Function.update s.pipeHandles i h }

def VfsFd.closed : VfsFd β := ⟨false, none, none, 0, 0⟩

/-- An `os_current_task` outside the table counts as task 0. -/
def currentTaskId (osCurrentTask : Int) : Fin 8 :=
  if h : 0 ≤ osCurrentTask ∧ osCurrentTask < 8 then ⟨osCurrentTask.toNat, by omega⟩ else 0

/-- The index of a local descriptor. -/
def localFd (fd : Int) : Option (Fin 256) :=
  if h : 0 ≤ fd ∧ fd < 256 then some ⟨fd.toNat, by omega⟩ else none

def allocTaskFd (s : Vfs β σ) (task : Fin 8) : Option (Fin 256) :=
  (List.finRange 256).find? fun i => s.taskFdMap (task, i) < 0

def allocGlobalFd (s : Vfs β σ) : Option (Fin 512) :=
  (List.finRange 512).find? fun g => !(s.fdTable g).used

def taskFdToGlobal (s : Vfs β σ) (task : Fin 8) (fd : Int) : Int :=
  match localFd fd with
  | none => -1
  | some i => s.taskFdMap (task, i)

/-- The entry of the global table with this number, if it is open. -/
def openGlobalFd (s : Vfs β σ) (gfd : Int) : Option (Fin 512 × VfsOps β) :=
  if h : 0 ≤ gfd ∧ gfd < 512 then
    let g : Fin 512 := ⟨gfd.toNat, by omega⟩
    if (s.fdTable g).used then (s.fdTable g).ops.map fun o => (g, o) else none
  else none

def VfsPipe.empty (p : VfsPipe) (used : Bool) : VfsPipe :=
  { p with used := used, head := 0, tail := 0, count := 0 }

def vfsPipeAllocSlot (s : Vfs β σ) : Option (Vfs β σ × Fin 64) :=
  (List.finRange 64).find? (fun i => !(s.pipes i).used) |>.map fun i =>
    (s.setPipe i { (s.pipes i).empty true with readRefs := 0, writeRefs := 0 }, i)

def vfsPipeHandleAlloc (s : Vfs β σ) (pipeIdx : Fin 64) (writable : Bool) :
    Option (Vfs β σ × Fin 128) :=
  (List.finRange 128).find? (fun i => !(s.pipeHandles i).used) |>.map fun i =>
    let p := s.pipes pipeIdx
    let p := if writable then { p with writeRefs := p.writeRefs + 1 }
      else { p with readRefs := p.readRefs + 1 }
    ((s.setPipeHandle i ⟨true, pipeIdx, writable⟩).setPipe pipeIdx p, i)

def pipeHandle (handle : Nat) : Option (Fin 128) :=
  if h : handle < 128 then some ⟨handle, h⟩ else none

/-- Close an open pipe handle: drop its reference and free the pipe with the last one. The source
stores `-1` as the pipe of the handle, which nothing reads. -/
def closePipeHandle (s : Vfs β σ) (i : Fin 128) : Vfs β σ :=
  let hd := s.pipeHandles i
  let p := s.pipes hd.pipeIdx
  let p := if hd.writable then { p with writeRefs := p.writeRefs - 1 }
    else { p with readRefs := p.readRefs - 1 }
  let p := if p.readRefs = 0 ∧ p.writeRefs = 0 then p.empty false else p
  (s.setPipeHandle i ⟨false, 0, false⟩).setPipe hd.pipeIdx p

def pipeCloseBackend (s : Vfs β σ) (handle : Nat) : Vfs β σ × VfsResult :=
  match pipeHandle handle with
  | none => (s, .error .invalidFd)
  | some i =>
    if !(s.pipeHandles i).used then (s, .error .invalidFd) else (closePipeHandle s i, .ok 0)

/-- The loop of `pipe_read_backend`. -/
def pipeDrain : Nat → VfsPipe → List UInt8 → VfsPipe × List UInt8
  | 0, p, out => (p, out)
  | size + 1, p, out =>
    if p.count > 0 then
      pipeDrain size { p with head := (p.head + 1) % 1024, count := p.count - 1 }
        (out ++ [p.data.get p.head])
    else (p, out)

def pipeReadBackend (s : Vfs β σ) (handle size : Nat) : Vfs β σ × Except VfsError (List UInt8) :=
  match pipeHandle handle with
  | none => (s, .error .invalidFd)
  | some i =>
    let hd := s.pipeHandles i
    if !hd.used then (s, .error .invalidFd)
    else if hd.writable then (s, .error .perm)
    else
      let r := pipeDrain size (s.pipes hd.pipeIdx) []
      let s := s.setPipe hd.pipeIdx r.1
      if r.2 = [] ∧ r.1.writeRefs > 0 then (s, .error .wouldBlock) else (s, .ok r.2)

/-- The loop of `pipe_write_backend`, with the number of bytes stored. -/
def pipeFill : List UInt8 → VfsPipe → Nat → VfsPipe × Nat
  | [], p, done => (p, done)
  | b :: bs, p, done =>
    if p.count < 1024 then
      pipeFill bs
        { p with data := p.data.patch p.tail [b], tail := (p.tail + 1) % 1024, count := p.count + 1 }
        (done + 1)
    else (p, done)

def pipeWriteBackend (s : Vfs β σ) (handle : Nat) (buf : List UInt8) : Vfs β σ × VfsResult :=
  match pipeHandle handle with
  | none => (s, .error .invalidFd)
  | some i =>
    let hd := s.pipeHandles i
    if !hd.used then (s, .error .invalidFd)
    else if !hd.writable then (s, .error .perm)
    else if (s.pipes hd.pipeIdx).readRefs = 0 then (s, .error .io)
    else
      let r := pipeFill buf (s.pipes hd.pipeIdx) 0
      let s := s.setPipe hd.pipeIdx r.1
      if r.2 = 0 then (s, .error .wouldBlock) else (s, .ok r.2)

/-- Whether a mount covers a path below it. -/
def VfsMount.covers (m : VfsMount β) (path : CString) : Bool :=
  m.mountPath.isPrefixOf path &&
    (path.length = m.mountLen || path[m.mountLen]? = some slash)

/-- The longest mount that covers the path; `/` covers everything, after all others. -/
def bestMount (s : Vfs β σ) (path : CString) : Option (Fin 8) :=
  (List.finRange 8).foldl (fun best i =>
    let m := s.mounts i
    if !m.used then best
    else if m.mountPath = [slash] then best.or (some i)
    else if m.covers path then
      match best with
      | none => some i
      | some j => if m.mountLen > (s.mounts j).mountLen then some i else best
    else best) none

def resolveMount (s : Vfs β σ) (path : CString) : Option (β × CString) :=
  (bestMount s path).bind fun i =>
    let m := s.mounts i
    let relPath :=
      if m.mountPath = [slash] then path
      else if path.length = m.mountLen then [slash]
      else path.drop m.mountLen
    m.ops.map fun b => (b, relPath)

/-- `mount_path` holds 23 characters. -/
def mountPathMax : Nat := 23

def Vfs.setMount (s : Vfs β σ) (i : Fin 8) (m : VfsMount β) : Vfs β σ :=
  { s with mounts := Function.update s.mounts i m }

def vfsMount (s : Vfs β σ) (mountPath : CString) (b : β) : Vfs β σ × VfsResult :=
  if mountPath.head? ≠ some slash then (s, .error .invalidArg)
  else
    match (List.finRange 8).find? fun i =>
      (s.mounts i).used && (s.mounts i).mountPath == mountPath with
    | some i => (s.setMount i { s.mounts i with ops := some b }, .ok 0)
    | none =>
      match (List.finRange 8).find? fun i => !(s.mounts i).used with
      | some i =>
        let stored := mountPath.take mountPathMax
        (s.setMount i ⟨true, stored, stored.length, some b⟩, .ok 0)
      | none => (s, .error .noSpace)

def vfsUmount (s : Vfs β σ) (mountPath : CString) : Vfs β σ × VfsResult :=
  if mountPath.head? ≠ some slash then (s, .error .invalidArg)
  else if mountPath = [slash] then (s, .error .perm)
  else
    match (List.finRange 8).find? fun i =>
      (s.mounts i).used && (s.mounts i).mountPath == mountPath with
    | some i => (s.setMount i ⟨false, [], 0, none⟩, .ok 0)
    | none => (s, .error .notFound)

/-- `vfs_init` up to the mount of the root file system; `initFiles` resets the backends. -/
def Vfs.reset (s : Vfs β σ) (initFiles : σ → σ) : Vfs β σ where
  mounts _ := ⟨false, [], 0, none⟩
  fdTable _ := VfsFd.closed
  taskFdMap _ := -1
  pipes i := { (s.pipes i).empty false with readRefs := 0, writeRefs := 0 }
  pipeHandles _ := ⟨false, 0, false⟩
  files := initFiles s.files

def vfsInit (s : Vfs β σ) (initFiles : σ → σ) (rootBackend : β) : Vfs β σ :=
  (vfsMount (s.reset initFiles) [slash] rootBackend).1

section

variable (ops : β → VfsBackendOps σ)

/-- Call `close` of a backend. -/
def Vfs.closeBackend (s : Vfs β σ) (o : VfsOps β) (handle : Option Nat) : Vfs β σ × VfsResult :=
  match handle, o with
  | none, _ => (s, .error .invalidFd)
  | some h, .pipe => pipeCloseBackend s h
  | some h, .file b =>
    let r := (ops b).close s.files h
    ({ s with files := r.1 }, r.2)

def closeGlobalFd (s : Vfs β σ) (gfd : Int) : Vfs β σ × VfsResult :=
  match openGlobalFd s gfd with
  | none => (s, .error .invalidFd)
  | some (g, o) =>
    let fd := s.fdTable g
    if fd.refCount > 1 then (s.setFd g { fd with refCount := fd.refCount - 1 }, .ok 0)
    else
      let r := s.closeBackend ops o fd.backendHandle
      (r.1.setFd g VfsFd.closed, r.2)

def vfsOpen (s : Vfs β σ) (osCurrentTask : Int) (path : CString) (flags : UInt32) :
    Vfs β σ × VfsResult :=
  let task := currentTaskId osCurrentTask
  if path = [] then (s, .error .invalidArg)
  else
    match resolveMount s path with
    | none => (s, .error .notFound)
    | some (b, relPath) =>
      let r := (ops b).openFile s.files relPath flags
      let s := { s with files := r.1 }
      match r.2 with
      | .error e => (s, .error e)
      | .ok handle =>
        match allocGlobalFd s, allocTaskFd s task with
        | some g, some i =>
          ((s.setFd g ⟨true, some (.file b), some handle, flags, 1⟩).setTaskFd (task, i) g, .ok i)
        | _, _ => ({ s with files := ((ops b).close s.files handle).1 }, .error .noSpace)

def vfsClose (s : Vfs β σ) (osCurrentTask fd : Int) : Vfs β σ × VfsResult :=
  let task := currentTaskId osCurrentTask
  match localFd fd with
  | none => (s, .error .invalidFd)
  | some i =>
    let gfd := s.taskFdMap (task, i)
    if gfd < 0 then (s, .error .invalidFd)
    else closeGlobalFd ops (s.setTaskFd (task, i) (-1)) gfd

def vfsDup (s : Vfs β σ) (osCurrentTask fd : Int) : Vfs β σ × VfsResult :=
  let task := currentTaskId osCurrentTask
  match openGlobalFd s (taskFdToGlobal s task fd) with
  | none => (s, .error .invalidFd)
  | some (g, _) =>
    match allocTaskFd s task with
    | none => (s, .error .noSpace)
    | some i =>
      let fd := s.fdTable g
      ((s.setTaskFd (task, i) g).setFd g { fd with refCount := fd.refCount + 1 }, .ok i)

def vfsDup2 (s : Vfs β σ) (osCurrentTask fd newfd : Int) : Vfs β σ × VfsResult :=
  let task := currentTaskId osCurrentTask
  match openGlobalFd s (taskFdToGlobal s task fd) with
  | none => (s, .error .invalidFd)
  | some (g, _) =>
    match localFd newfd with
    | none => (s, .error .invalidArg)
    | some i =>
      if fd = newfd then (s, .ok i)
      else
        let s :=
          if 0 ≤ s.taskFdMap (task, i) then (vfsClose ops s osCurrentTask newfd).1 else s
        let gfd := s.fdTable g
        ((s.setTaskFd (task, i) g).setFd g { gfd with refCount := gfd.refCount + 1 }, .ok i)

/-- Set the `used` mark of an entry that was found. -/
def Vfs.setFdUsed (s : Vfs β σ) (used : Bool) : Option (Fin 512) → Vfs β σ
  | none => s
  | some g => s.setFd g { s.fdTable g with used := used }

/-- Reserve the place of the reading end with `-2`. -/
def Vfs.markTaskFd (s : Vfs β σ) (task : Fin 8) : Option (Fin 256) → Vfs β σ
  | none => s
  | some i => s.setTaskFd (task, i) (-2)

/-- Give a reserved place back. -/
def Vfs.unmarkTaskFd (s : Vfs β σ) (task : Fin 8) : Option (Fin 256) → Vfs β σ
  | none => s
  | some i => if s.taskFdMap (task, i) = -2 then s.setTaskFd (task, i) (-1) else s

/-- Undo a `vfs_pipe` that found no descriptors. -/
def vfsPipeAbort (s : Vfs β σ) (task : Fin 8) (readGfd writeGfd : Option (Fin 512))
    (readLfd : Option (Fin 256)) (readHandle writeHandle : Fin 128) : Vfs β σ :=
  let s := (s.setFdUsed false readGfd).setFdUsed false writeGfd
  let s := s.unmarkTaskFd task readLfd
  (pipeCloseBackend (pipeCloseBackend s readHandle).1 writeHandle).1

/-- The second half of `vfs_pipe`, with the two pipe handles at hand. -/
def vfsPipeDescriptors (s : Vfs β σ) (task : Fin 8) (readHandle writeHandle : Fin 128) :
    Vfs β σ × Except VfsError (Fin 256 × Fin 256) :=
  let readGfd := allocGlobalFd s
  let s := s.setFdUsed true readGfd
  let writeGfd := allocGlobalFd s
  let s := s.setFdUsed true writeGfd
  let readLfd := allocTaskFd s task
  let s := s.markTaskFd task readLfd
  let writeLfd := allocTaskFd s task
  match readGfd, writeGfd, readLfd, writeLfd with
  | some rg, some wg, some rl, some wl =>
    if rl = wl then
      (vfsPipeAbort s task readGfd writeGfd readLfd readHandle writeHandle, .error .noSpace)
    else
      let s := s.setFd rg ⟨true, some .pipe, some readHandle, vfsORdonly, 1⟩
      let s := s.setFd wg ⟨true, some .pipe, some writeHandle, vfsOWronly, 1⟩
      ((s.setTaskFd (task, rl) rg).setTaskFd (task, wl) wg, .ok (rl, wl))
  | _, _, _, _ =>
    (vfsPipeAbort s task readGfd writeGfd readLfd readHandle writeHandle, .error .noSpace)

def vfsPipe (s : Vfs β σ) (osCurrentTask : Int) :
    Vfs β σ × Except VfsError (Fin 256 × Fin 256) :=
  let task := currentTaskId osCurrentTask
  match vfsPipeAllocSlot s with
  | none => (s, .error .noSpace)
  | some (s, pipeIdx) =>
    let free (s : Vfs β σ) := s.setPipe pipeIdx { s.pipes pipeIdx with used := false }
    match vfsPipeHandleAlloc s pipeIdx false with
    | none =>
      match vfsPipeHandleAlloc s pipeIdx true with
      | none => (free s, .error .noSpace)
      | some (s, writeHandle) => (free (pipeCloseBackend s writeHandle).1, .error .noSpace)
    | some (s, readHandle) =>
      match vfsPipeHandleAlloc s pipeIdx true with
      | none => (free (pipeCloseBackend s readHandle).1, .error .noSpace)
      | some (s, writeHandle) => vfsPipeDescriptors s task readHandle writeHandle

/-- One round of the loop of `vfs_close_all_for_task`. -/
def closeTaskSlot (task : Fin 8) (s : Vfs β σ) (i : Fin 256) : Vfs β σ :=
  let gfd := s.taskFdMap (task, i)
  if 0 ≤ gfd then (closeGlobalFd ops (s.setTaskFd (task, i) (-1)) gfd).1 else s

/-- The number of a task in the table. -/
def taskIndex (taskId : Int) : Option (Fin 8) :=
  if h : 0 ≤ taskId ∧ taskId < 8 then some ⟨taskId.toNat, by omega⟩ else none

def vfsCloseAllForTask (s : Vfs β σ) (taskId : Int) : Vfs β σ :=
  match taskIndex taskId with
  | none => s
  | some task => (List.finRange 256).foldl (closeTaskSlot ops task) s

/-- One round of the second loop of `vfs_clone_task_fds`. -/
def cloneTaskSlot (src dst : Fin 8) (s : Vfs β σ) (i : Fin 256) : Vfs β σ :=
  let gfd := s.taskFdMap (src, i)
  if h : 0 ≤ gfd ∧ gfd < 512 then
    let g : Fin 512 := ⟨gfd.toNat, by omega⟩
    let fd := s.fdTable g
    if fd.used then
      (s.setTaskFd (dst, i) g).setFd g { fd with refCount := fd.refCount + 1 }
    else s
  else s

def vfsCloneTaskFds (s : Vfs β σ) (srcTaskId dstTaskId : Int) : Vfs β σ × VfsResult :=
  match taskIndex srcTaskId, taskIndex dstTaskId with
  | some src, some dst =>
    let s := (List.finRange 256).foldl (fun s i => s.setTaskFd (dst, i) (-1)) s
    ((List.finRange 256).foldl (cloneTaskSlot src dst) s, .ok 0)
  | _, _ => (s, .error .invalidArg)

def vfsRead (s : Vfs β σ) (osCurrentTask fd : Int) (size : Nat) :
    Vfs β σ × Except VfsError (List UInt8) :=
  match openGlobalFd s (taskFdToGlobal s (currentTaskId osCurrentTask) fd) with
  | none => (s, .error .invalidFd)
  | some (g, o) =>
    match (s.fdTable g).backendHandle, o with
    | none, _ => (s, .error .invalidFd)
    | some h, .pipe => pipeReadBackend s h size
    | some h, .file b =>
      let r := (ops b).read s.files h size
      ({ s with files := r.1 }, r.2)

def vfsWrite (s : Vfs β σ) (osCurrentTask fd : Int) (buf : List UInt8) : Vfs β σ × VfsResult :=
  match openGlobalFd s (taskFdToGlobal s (currentTaskId osCurrentTask) fd) with
  | none => (s, .error .invalidFd)
  | some (g, o) =>
    match (s.fdTable g).backendHandle, o with
    | none, _ => (s, .error .invalidFd)
    | some h, .pipe => pipeWriteBackend s h buf
    | some h, .file b =>
      let r := (ops b).write s.files h buf
      ({ s with files := r.1 }, r.2)

def vfsLseek (s : Vfs β σ) (osCurrentTask fd offset whence : Int) : Vfs β σ × VfsResult :=
  match openGlobalFd s (taskFdToGlobal s (currentTaskId osCurrentTask) fd) with
  | none => (s, .error .invalidFd)
  | some (g, o) =>
    match (s.fdTable g).backendHandle, o with
    | none, _ => (s, .error .invalidFd)
    | some _, .pipe => (s, .error .invalidArg)
    | some h, .file b =>
      let r := (ops b).lseek s.files h offset whence
      ({ s with files := r.1 }, r.2)

def vfsFtruncate (s : Vfs β σ) (osCurrentTask fd : Int) (size : Nat) : Vfs β σ × VfsResult :=
  match openGlobalFd s (taskFdToGlobal s (currentTaskId osCurrentTask) fd) with
  | none => (s, .error .invalidFd)
  | some (g, o) =>
    match (s.fdTable g).backendHandle, o with
    | none, _ => (s, .error .invalidFd)
    | some _, .pipe => (s, .error .perm)
    | some h, .file b =>
      let r := (ops b).ftruncate s.files h size
      ({ s with files := r.1 }, r.2)

def vfsFGetfl : Int := 1
def vfsFSetfl : Int := 2

/-- `fcntl` changes only the flags that the VFS keeps; the backends test their own. -/
def vfsFcntl (s : Vfs β σ) (osCurrentTask fd cmd : Int) (arg : UInt32) : Vfs β σ × VfsResult :=
  let gfd := taskFdToGlobal s (currentTaskId osCurrentTask) fd
  if h : 0 ≤ gfd ∧ gfd < 512 then
    let g : Fin 512 := ⟨gfd.toNat, by omega⟩
    let e := s.fdTable g
    if !e.used then (s, .error .invalidFd)
    else if cmd = vfsFGetfl then (s, .ok e.flags.toNat)
    else if cmd = vfsFSetfl then (s.setFd g { e with flags := arg }, .ok 0)
    else (s, .error .invalidArg)
  else (s, .error .invalidFd)

end

end NeuroSpark
