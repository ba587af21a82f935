import NeuroSpark.Mem.Spaces
import NeuroSpark.Proc.Identity
import NeuroSpark.Proc.Resources
import NeuroSpark.Vfs.Tasks

/-!
# Slots that are used again

What a task owns is spread over tables that are indexed by its slot: descriptors and their rights,
sockets, epoll objects, contexts of asynchronous I/O, and an address space. A task can end in three
ways: by `SYS_EXIT`, by being killed, and by a fatal signal or a fault. Its slot then goes to a new
process, by `SYS_FORK` or, if it is slot 2, by an exec.
-/

namespace NeuroSpark

open Function (update update_self update_of_ne)

/-- The layout of the kernel, with the addresses at which new tasks start. -/
structure KernelImage extends KernelLayout where
  forkChildEntry : BitVec 32
  userTaskEntry : BitVec 32

/-- `exited` is the mark that `task_exit_with_code` and `task_kill` set and `create_task` clears;
the other tables are those of `vfs.c`, `net_socket.c`, `syscall.c`, `posix.c` and the page
directories. -/
structure System (β σ : Type) where
  proc : Processes
  vfs : Vfs β σ
  taskSockets : Fin 8 → TaskSockets
  taskEpolls : Fin 8 → TaskEpolls
  aioContexts : AioContexts
  spaces : Spaces
  exited : Fin 8 → Bool

/-- What a running task can do. `bind`, `listen`, `connect` and the like are `setSocket`. A call
that works on a range of pages is seen one page at a time. -/
inductive TaskCall where
  | openFile (path : CString) (flags : UInt32)
  | close (fd : Int)
  | dup (fd : Int)
  | dup2 (fd newfd : Int)
  | pipe
  | read (fd : Int) (size : Nat)
  | write (fd : Int) (buf : List UInt8)
  | lseek (fd offset whence : Int)
  | ftruncate (fd : Int) (size : Nat)
  | fcntl (fd cmd : Int) (arg : UInt32)
  | socket (type protocol : Int)
  | setSocket (fd : Int) (entry : NsSocketEntry)
  | epollCreate
  | epollClose (epfd : Int)
  | ioSetup (maxevents : UInt32)
  | mapPage (virtAddr : BitVec 32)
  | unmapPage (virtAddr : BitVec 32)
  | protectPage (virtAddr : BitVec 32) (writable : Bool)
  | store (virtAddr v : BitVec 32)
  | fork
  | exit
  | kill (target : Fin 8)
  | exec (path : CString) (pages : List ImagePage) (valid : Bool)

/-- A call of a task; a fatal signal or a fault of a task; the scheduler, out of tasks, goes on with
one that has exited and only halts; the kernel takes or frees a page. -/
inductive SystemOp where
  | call (task : Fin 8) (c : TaskCall)
  | fault (task : Fin 8)
  | reselect (task : Fin 8)
  | kernelAlloc
  | freePage (pageAddr : Nat)

namespace System

variable {β σ : Type} (k : KernelImage) (ops : β → VfsBackendOps σ)

/-- The task has not ended. -/
def Running (s : System β σ) (task : Fin 8) : Prop :=
  s.proc.terminated task = false ∧ s.exited task = false

instance (s : System β σ) (task : Fin 8) : Decidable (s.Running task) :=
  inferInstanceAs (Decidable (_ ∧ _))

/-- A step of `Processes` by a task. -/
def procStep (s : System β σ) (task : Fin 8) (o : ProcessOp) : System β σ :=
  { s with proc := { s.proc with current := task }.step o }

/-- `task_exit_with_code` and `task_kill`, without the waking of the parent. -/
def endTask (s : System β σ) (task : Fin 8) : System β σ :=
  { s with
    proc := s.proc.setTerminated task true
    exited := Function.update s.exited task true
    vfs := vfsCloseAllForTask ops s.vfs (task : Nat)
    spaces := s.spaces.destroySpace k.toKernelLayout task }

def closeSockets (s : System β σ) (task : Fin 8) : System β σ :=
  { s with taskSockets := Function.update s.taskSockets task (nsSocketCloseAll (s.taskSockets task)) }

def closeEpolls (s : System β σ) (task : Fin 8) : System β σ :=
  { s with taskEpolls := Function.update s.taskEpolls task (nsEpollCloseAll (s.taskEpolls task)) }

/-- `SYS_EXIT` -/
def exitTask (s : System β σ) (task : Fin 8) : System β σ :=
  let s := (s.closeSockets task).closeEpolls task
  let s := { s with aioContexts := aioCloseAllForTask s.aioContexts task }
  endTask k ops (s.procStep task .exit) task

/-- `SYS_CLOSE` -/
def closeFd (s : System β σ) (task : Fin 8) (fd : Int) : System β σ :=
  match nsSocketEntryForFd (s.taskSockets task) fd, nsEpollObjectForFd (s.taskEpolls task) fd with
  | some i, _ =>
    let t := s.taskSockets task
    { s with
      taskSockets := Function.update s.taskSockets task
        (Function.update t i (nsSocketCloseEntry (t i))) }
  | none, some i =>
    let t := s.taskEpolls task
    { s with
      taskEpolls := Function.update s.taskEpolls task
        (Function.update t i (nsEpollCloseObject (t i))) }
  | none, none =>
    let r := vfsClose ops s.vfs (task : Nat) fd
    match r.2 with
    | .ok _ => { s with vfs := r.1 }.procStep task (.close fd)
    | .error _ => { s with vfs := r.1 }

/-- `SYS_OPEN` -/
def openFile (s : System β σ) (task : Fin 8) (path : CString) (flags : UInt32) : System β σ :=
  match (posixCheckPathPermission s.proc.posix task path (Processes.openAccessMask flags)).2 with
  | .error _ => s.procStep task (.openFile path flags none)
  | .ok _ =>
    let r := vfsOpen ops s.vfs (task : Nat) path flags
    let fd := match r.2 with
      | .ok fd => some (fd : Int)
      | .error _ => none
    { s with vfs := r.1 }.procStep task (.openFile path flags fd)

/-- `create_task`, with a directory. -/
def createTask (s : System β σ) (task : Fin 8) (entry pageDir : BitVec 32) : System β σ × Bool :=
  let r := s.spaces.createTask task entry pageDir
  ({ s with
      spaces := r.1
      exited := if r.2 then Function.update s.exited task false else s.exited }, r.2)

/-- The memory of a clone, with its directory. -/
def forkSpace (s : System β σ) (task : Fin 8) : Paging × BitVec 32 :=
  cloneUserAddressSpace k.toKernelLayout s.spaces.paging (s.spaces.pageDir task)

/-- `SYS_FORK` -/
def fork (s : System β σ) (task : Fin 8) : System β σ :=
  match s.proc.taskAllocSlot with
  | none => s
  | some child =>
    let r := forkSpace k s task
    let s := { s with spaces := s.spaces.setPaging r.1 }
    if r.2 = 0 then s
    else
      let c := s.createTask child k.forkChildEntry r.2
      let s := c.1.procStep task (.fork true c.2)
      let s := (s.closeSockets child).closeEpolls child
      { s with vfs := (vfsCloneTaskFds s.vfs (task : Nat) (child : Nat)).1 }

/-- The memory of an image, with its directory. -/
def execSpace (s : System β σ) (pages : List ImagePage) (valid : Bool) : Paging × BitVec 32 :=
  loadUserImage k.toKernelLayout s.spaces.paging pages valid

/-- The command `EXEC` of the shell. -/
def exec (s : System β σ) (task : Fin 8) (path : CString) (pages : List ImagePage) (valid : Bool) :
    System β σ :=
  match (posixCheckPathPermission s.proc.posix task path posixAccExec).2 with
  | .error _ => s.procStep task (.shellExec path false false)
  | .ok _ =>
    let r := execSpace k s pages valid
    let s := { s with spaces := s.spaces.setPaging r.1 }
    if r.2 = 0 then s.procStep task (.shellExec path false false)
    else
      let c := s.createTask 2 k.userTaskEntry r.2
      c.1.procStep task (.shellExec path true c.2)

/-- An operation on the pages of a task that has an address space of its own. -/
def onPages (s : System β σ) (task : Fin 8) (f : Paging → BitVec 32 → Paging) : System β σ :=
  if s.spaces.HasSpace k.toKernelLayout task then
    { s with spaces := s.spaces.setPaging (f s.spaces.paging (s.spaces.pageDir task)) }
  else s

/-- A call of a task that runs. -/
def taskCall (s : System β σ) (task : Fin 8) : TaskCall → System β σ
  | .openFile path flags => openFile ops s task path flags
  | .close fd => closeFd ops s task fd
  | .dup fd => { s with vfs := (vfsDup s.vfs (task : Nat) fd).1 }
  | .dup2 fd newfd => { s with vfs := (vfsDup2 ops s.vfs (task : Nat) fd newfd).1 }
  | .pipe => { s with vfs := (vfsPipe s.vfs (task : Nat)).1 }
  | .read fd size => { s with vfs := (vfsRead ops s.vfs (task : Nat) fd size).1 }
  | .write fd buf => { s with vfs := (vfsWrite ops s.vfs (task : Nat) fd buf).1 }
  | .lseek fd offset whence =>
    { s with vfs := (vfsLseek ops s.vfs (task : Nat) fd offset whence).1 }
  | .ftruncate fd size => { s with vfs := (vfsFtruncate ops s.vfs (task : Nat) fd size).1 }
  | .fcntl fd cmd arg => { s with vfs := (vfsFcntl s.vfs (task : Nat) fd cmd arg).1 }
  | .socket type protocol =>
    { s with
      taskSockets := Function.update s.taskSockets task
        (nsSocketAllocFd (s.taskSockets task) type protocol).1 }
  | .setSocket fd entry =>
    match nsSocketEntryForFd (s.taskSockets task) fd with
    | some i =>
      { s with
        taskSockets := Function.update s.taskSockets task
          (Function.update (s.taskSockets task) i { entry with used := true }) }
    | none => s
  | .epollCreate =>
    { s with
      taskEpolls := Function.update s.taskEpolls task (nsEpollAllocFd (s.taskEpolls task)).1 }
  | .epollClose epfd =>
    match nsEpollObjectForFd (s.taskEpolls task) epfd with
    | some i =>
      { s with
        taskEpolls := Function.update s.taskEpolls task
          (Function.update (s.taskEpolls task) i (nsEpollCloseObject (s.taskEpolls task i))) }
    | none => s
  | .ioSetup maxevents =>
    { s with aioContexts := (aioAllocContext s.aioContexts task maxevents).1 }
  | .mapPage virtAddr =>
    if userVaddrMin ≤ virtAddr ∧ virtAddr ≤ userVaddrMax then
      onPages k s task fun p pd => mapRangePage p pd virtAddr
    else s
  | .unmapPage virtAddr => onPages k s task fun p pd => (unmapUserPage p pd virtAddr).1
  | .protectPage virtAddr writable =>
    onPages k s task fun p pd => (setUserPageWritable p pd virtAddr writable).1
  | .store virtAddr v => onPages k s task fun p pd => storeUser p pd virtAddr v
  | .fork => if s.spaces.HasSpace k.toKernelLayout task then fork k s task else s
  | .exit => exitTask k ops s task
  | .kill target => if s.proc.terminated target then s else endTask k ops s target
  | .exec path pages valid => exec k s task path pages valid

def step (s : System β σ) : SystemOp → System β σ
  | .call task c => if s.Running task then taskCall k ops s task c else s
  | .fault task => if s.Running task then endTask k ops s task else s
  | .reselect task =>
    if s.exited task then { s with proc := s.proc.setTerminated task false } else s
  | .kernelAlloc => { s with spaces := s.spaces.setPaging s.spaces.paging.allocPage.1 }
  | .freePage pageAddr =>
    { s with
      spaces := s.spaces.setPaging { s.spaces.paging with
        memoryBitmap := pmmFreePage s.spaces.paging.memoryBitmap pageAddr } }

def machineStep (s : System β σ) (o : SystemOp) : System β σ × Unit := (step k ops s o, ())

/-! ### Address spaces -/

/-- Memory is not taken from under an address space: nobody frees a page of one by its address, and
the pages of a new stack are adjacent. -/
def SparesMemory (s : System β σ) : SystemOp → Prop
  | .call task .fork => (forkSpace k s task).2 ≠ 0 → StackFits (forkSpace k s task).1
  | .call _ (.exec _ pages valid) =>
    (execSpace k s pages valid).2 ≠ 0 → StackFits (execSpace k s pages valid).1
  | .freePage pageAddr => s.spaces.MayFree k.toKernelLayout pageAddr
  | _ => True

section

variable {k ops} {s : System β σ} {task : Fin 8}

@[simp] lemma procStep_spaces (o : ProcessOp) : (s.procStep task o).spaces = s.spaces := rfl

@[simp] lemma procStep_taskSockets (o : ProcessOp) :
    (s.procStep task o).taskSockets = s.taskSockets := rfl

@[simp] lemma procStep_taskEpolls (o : ProcessOp) :
    (s.procStep task o).taskEpolls = s.taskEpolls := rfl

lemma createTask_spaces (child : Fin 8) (entry pd : BitVec 32) :
    (s.createTask child entry pd).1.spaces = (s.spaces.createTask child entry pd).1 := by
  simp only [createTask]

lemma closeSockets_spaces (child : Fin 8) : (s.closeSockets child).spaces = s.spaces := rfl

lemma closeEpolls_spaces (child : Fin 8) : (s.closeEpolls child).spaces = s.spaces := rfl

section

variable (h : s.spaces.Sound k.toKernelLayout)
include h

lemma onPages_sound {f : Paging → BitVec 32 → Paging}
    (hf : ∀ {base : Pmm} {p : Paging} {pd : BitVec 32}, (∀ page < 256, base.Used page) →
      OwnDirectory k.toKernelLayout pd → p.Sound base (frameOf pd) →
      p.Keeps base (frameOf pd) (f p pd)) :
    (onPages k s task f).spaces.Sound k.toKernelLayout := by
  unfold onPages
  split_ifs with htask
  · exact h.of_keeps htask fun base hlow hs => hf hlow (h.own task htask) hs
  · exact h

lemma fork_sound (hfits : (forkSpace k s task).2 ≠ 0 → StackFits (forkSpace k s task).1) :
    (fork k s task).spaces.Sound k.toKernelLayout := by
  unfold fork
  split
  · exact h
  · rename_i child _
    have hbuilds : s.spaces.paging.Builds k.toKernelLayout (forkSpace k s task) :=
      cloneUserAddressSpace_builds h.booted _
    dsimp only
    split_ifs with hzero
    · exact h.of_builds_zero hbuilds hzero
    · simp only [closeEpolls_spaces, closeSockets_spaces, procStep_spaces, createTask_spaces]
      exact h.createTask_builds hbuilds hzero (hfits hzero) child k.forkChildEntry

lemma exec_sound (path : CString) {pages : List ImagePage} {valid : Bool}
    (hfits : (execSpace k s pages valid).2 ≠ 0 → StackFits (execSpace k s pages valid).1) :
    (exec k s task path pages valid).spaces.Sound k.toKernelLayout := by
  unfold exec
  split
  · exact h
  · have hbuilds : s.spaces.paging.Builds k.toKernelLayout (execSpace k s pages valid) :=
      loadUserImage_builds h.booted pages valid
    dsimp only
    split_ifs with hzero
    · exact h.of_builds_zero hbuilds hzero
    · simp only [procStep_spaces, createTask_spaces]
      exact h.createTask_builds hbuilds hzero (hfits hzero) 2 k.userTaskEntry

lemma taskCall_sound {c : TaskCall} (hc : SparesMemory k s (.call task c)) :
    (taskCall k ops s task c).spaces.Sound k.toKernelLayout := by
  have hmask : ∀ {pd : BitVec 32}, OwnDirectory k.toKernelLayout pd → pd &&& pageMask ≠ 0 := by
    intro pd hpd
    rw [hpd.aligned]
    exact hpd.ne_zero
  cases c with
  | openFile path flags =>
    simp only [taskCall, openFile]
    split <;> exact h
  | close fd =>
    simp only [taskCall, closeFd]
    split
    · exact h
    · exact h
    · split <;> exact h
  | dup | dup2 | pipe | read | write | lseek | ftruncate | fcntl | socket => exact h
  | setSocket fd entry =>
    simp only [taskCall]
    split <;> exact h
  | epollCreate => exact h
  | epollClose epfd =>
    simp only [taskCall]
    split <;> exact h
  | ioSetup maxevents => exact h
  | mapPage va =>
    simp only [taskCall]
    split_ifs with hrange
    · exact onPages_sound h fun hlow hpd hs =>
        mapRangePage_keeps hs hlow (hmask hpd) rfl hrange.1 hrange.2
    · exact h
  | unmapPage va => exact onPages_sound h fun hlow _ hs => unmapUserPage_keeps hs hlow rfl va
  | protectPage va writable =>
    exact onPages_sound h fun _ _ hs => setUserPageWritable_keeps hs rfl va writable
  | store va v => exact onPages_sound h fun _ _ hs => storeUser_keeps hs rfl va v
  | fork =>
    simp only [taskCall]
    split_ifs
    · exact fork_sound h hc
    · exact h
  | exit => exact h.destroySpace task
  | kill target =>
    simp only [taskCall]
    split_ifs
    · exact h
    · exact h.destroySpace target
  | exec path pages valid => exact exec_sound h path hc

lemma step_sound {o : SystemOp} (ho : SparesMemory k s o) :
    (step k ops s o).spaces.Sound k.toKernelLayout := by
  cases o with
  | call task c =>
    simp only [step]
    split_ifs
    · exact taskCall_sound h ho
    · exact h
  | fault task =>
    simp only [step]
    split_ifs
    · exact h.destroySpace task
    · exact h
  | reselect task =>
    simp only [step]
    split_ifs <;> exact h
  | kernelAlloc => exact h.allocPage
  | freePage pageAddr => exact h.freePage ho

end

end

/-! ### A slot whose process has ended -/

/-- The slot that an operation gives to a new process, once memory for it is found. -/
def gives (s : System β σ) : SystemOp → Option (Fin 8)
  | .call task .fork =>
    if s.Running task ∧ s.spaces.HasSpace k.toKernelLayout task ∧ (forkSpace k s task).2 ≠ 0 then
      s.proc.taskAllocSlot
    else none
  | .call task (.exec path pages valid) =>
    if s.Running task ∧ (posixCheckPathPermission s.proc.posix task path posixAccExec).2 = .ok 0 ∧
        (execSpace k s pages valid).2 ≠ 0 then
      some 2
    else none
  | _ => none

/-- What the slot of a process that has ended still holds is the same in both states. -/
structure KeepsSlot (slot : Fin 8) (s s' : System β σ) : Prop where
  exited : s.exited slot = true → s'.exited slot = true
  sockets : s'.taskSockets slot = s.taskSockets slot
  epolls : s'.taskEpolls slot = s.taskEpolls slot
  aio : ∀ i, (s'.aioContexts i).OwnedBy slot ↔ (s.aioContexts i).OwnedBy slot
  noFds : s.vfs.NoFds slot → s'.vfs.NoFds slot

section

variable {k ops} {s s' s'' : System β σ} {task slot : Fin 8}

lemma KeepsSlot.refl (s : System β σ) : KeepsSlot slot s s :=
  ⟨fun h => h, rfl, rfl, fun _ => Iff.rfl, fun h => h⟩

section

variable (h : KeepsSlot slot s s')
include h

lemma KeepsSlot.trans (h' : KeepsSlot slot s' s'') : KeepsSlot slot s s'' where
  exited hs := h'.exited (h.exited hs)
  sockets := h'.sockets.trans h.sockets
  epolls := h'.epolls.trans h.epolls
  aio i := (h'.aio i).trans (h.aio i)
  noFds hs := h'.noFds (h.noFds hs)

lemma KeepsSlot.procStep (task : Fin 8) (o : ProcessOp) :
    KeepsSlot slot s (s'.procStep task o) := ⟨h.exited, h.sockets, h.epolls, h.aio, h.noFds⟩

lemma KeepsSlot.setSpaces (m : Spaces) :
    KeepsSlot slot s { s' with spaces := m } := ⟨h.exited, h.sockets, h.epolls, h.aio, h.noFds⟩

lemma KeepsSlot.setVfs {v : Vfs β σ} (hv : s'.vfs.OnlyOf task v)
    (hne : slot ≠ task) : KeepsSlot slot s { s' with vfs := v } :=
  ⟨h.exited, h.sockets, h.epolls, h.aio, fun hs => hv.noFds hne (h.noFds hs)⟩

lemma KeepsSlot.setSockets (t : TaskSockets) (hne : slot ≠ task) :
    KeepsSlot slot s { s' with taskSockets := update s'.taskSockets task t } :=
  ⟨h.exited, (update_of_ne hne ..).trans h.sockets, h.epolls, h.aio, h.noFds⟩

lemma KeepsSlot.setEpolls (t : TaskEpolls) (hne : slot ≠ task) :
    KeepsSlot slot s { s' with taskEpolls := update s'.taskEpolls task t } :=
  ⟨h.exited, h.sockets, (update_of_ne hne ..).trans h.epolls, h.aio, h.noFds⟩

lemma KeepsSlot.closeSockets (hne : slot ≠ task) :
    KeepsSlot slot s (s'.closeSockets task) := h.setSockets _ hne

lemma KeepsSlot.closeEpolls (hne : slot ≠ task) :
    KeepsSlot slot s (s'.closeEpolls task) := h.setEpolls _ hne

lemma KeepsSlot.setAio {t : AioContexts}
    (ht : ∀ i, (t i).OwnedBy slot ↔ (s'.aioContexts i).OwnedBy slot) :
    KeepsSlot slot s { s' with aioContexts := t } :=
  ⟨h.exited, h.sockets, h.epolls, fun i => (ht i).trans (h.aio i), h.noFds⟩

lemma KeepsSlot.createTask (entry pd : BitVec 32) (hne : slot ≠ task) :
    KeepsSlot slot s (s'.createTask task entry pd).1 := by
  simp only [System.createTask]
  refine ⟨fun hs => ?_, h.sockets, h.epolls, h.aio, h.noFds⟩
  dsimp only
  split_ifs
  · rw [update_of_ne hne]
    exact h.exited hs
  · exact h.exited hs

end

lemma endTask_keepsSlot (s : System β σ) (task : Fin 8) :
    KeepsSlot slot s (endTask k ops s task) := by
  refine ⟨fun hs => ?_, rfl, rfl, fun _ => Iff.rfl, fun hs => ?_⟩
  · change update s.exited task true slot = true
    by_cases hne : slot = task
    · rw [hne, update_self]
    · rwa [update_of_ne hne]
  · by_cases hne : slot = task
    · rw [hne]
      exact vfsCloseAllForTask_noFds
    · exact vfsCloseAllForTask_onlyOf.noFds hne hs

lemma exitTask_keepsSlot (hne : slot ≠ task) : KeepsSlot slot s (exitTask k ops s task) := by
  refine KeepsSlot.trans ?_ (endTask_keepsSlot _ task)
  refine KeepsSlot.procStep (KeepsSlot.setAio ?_ fun i => ?_) task .exit
  · exact ((KeepsSlot.refl s).setSockets _ hne).setEpolls _ hne
  · rw [aioCloseAllForTask_ownedBy]
    exact and_iff_right hne

lemma ne_of_taskAllocSlot {child : Fin 8} (hrun : s.proc.terminated task = false)
    (hchild : s.proc.taskAllocSlot = some child) : task ≠ child := by
  rintro rfl
  have hterminated := List.find?_some hchild
  simp [hrun] at hterminated

lemma fork_keepsSlot (hrun : s.proc.terminated task = false)
    (hgives : (forkSpace k s task).2 ≠ 0 → s.proc.taskAllocSlot ≠ some slot) :
    KeepsSlot slot s (fork k s task) := by
  unfold fork
  split
  · exact KeepsSlot.refl s
  rename_i child hchild
  generalize forkSpace k s task = r at hgives ⊢
  dsimp only
  split_ifs with hzero
  · exact (KeepsSlot.refl s).setSpaces _
  · have hslot : slot ≠ child := by
      rintro rfl
      exact hgives hzero hchild
    have hcreated := ((KeepsSlot.refl s).setSpaces (s.spaces.setPaging r.1)).createTask
      k.forkChildEntry r.2 hslot
    generalize { s with spaces := s.spaces.setPaging r.1 }.createTask child k.forkChildEntry r.2 = c
      at hcreated ⊢
    have hclosed := ((hcreated.procStep task (.fork true c.2)).closeSockets
      hslot).closeEpolls hslot
    exact hclosed.setVfs (vfsCloneTaskFds_spec (ne_of_taskAllocSlot hrun hchild)).1 hslot

lemma exec_keepsSlot (path : CString) (pages : List ImagePage) (valid : Bool)
    (hgives : (posixCheckPathPermission s.proc.posix task path posixAccExec).2 = .ok 0 →
      (execSpace k s pages valid).2 ≠ 0 → slot ≠ 2) :
    KeepsSlot slot s (exec k s task path pages valid) := by
  unfold exec
  split
  · exact (KeepsSlot.refl s).procStep _ _
  · rename_i v hv
    obtain ⟨rfl, -⟩ := posixCheckPathPermission_ok hv
    generalize execSpace k s pages valid = r at hgives ⊢
    dsimp only
    split_ifs with hzero
    · exact ((KeepsSlot.refl s).setSpaces _).procStep _ _
    · exact (((KeepsSlot.refl s).setSpaces (s.spaces.setPaging r.1)).createTask _ _
        (hgives hv hzero)).procStep _ _

lemma onPages_keepsSlot (f : Paging → BitVec 32 → Paging) :
    KeepsSlot slot s (onPages k s task f) := by
  unfold onPages
  split_ifs
  · exact (KeepsSlot.refl s).setSpaces _
  · exact KeepsSlot.refl s

lemma closeFd_keepsSlot (fd : Int) (hne : slot ≠ task) :
    KeepsSlot slot s (closeFd ops s task fd) := by
  unfold closeFd
  split
  · exact (KeepsSlot.refl s).setSockets _ hne
  · exact (KeepsSlot.refl s).setEpolls _ hne
  · dsimp only
    have hclosed : KeepsSlot slot s { s with vfs := (vfsClose ops s.vfs (task : Nat) fd).1 } :=
      (KeepsSlot.refl s).setVfs (vfsClose_onlyOf fd) hne
    split
    · exact hclosed.procStep task (.close fd)
    · exact hclosed

lemma openFile_keepsSlot (path : CString) (flags : UInt32) (hne : slot ≠ task) :
    KeepsSlot slot s (openFile ops s task path flags) := by
  unfold openFile
  split
  · exact (KeepsSlot.refl s).procStep _ _
  · exact ((KeepsSlot.refl s).setVfs (vfsOpen_onlyOf path flags) hne).procStep _ _

/-- A task that runs changes no slot but its own, unless it gives the slot to a new process. -/
lemma taskCall_keepsSlot (hrun : s.Running task) (hne : slot ≠ task) {c : TaskCall}
    (hgives : gives k s (.call task c) ≠ some slot) :
    KeepsSlot slot s (taskCall k ops s task c) := by
  have hrefl : KeepsSlot slot s s := KeepsSlot.refl s
  cases c with
  | openFile path flags => exact openFile_keepsSlot path flags hne
  | close fd => exact closeFd_keepsSlot fd hne
  | dup fd => exact hrefl.setVfs (vfsDup_onlyOf fd) hne
  | dup2 fd newfd => exact hrefl.setVfs (vfsDup2_onlyOf fd newfd) hne
  | pipe => exact hrefl.setVfs vfsPipe_onlyOf hne
  | read fd size => exact hrefl.setVfs (Vfs.OnlyOf.of_map (vfsRead_taskFdMap fd size)) hne
  | write fd buf => exact hrefl.setVfs (Vfs.OnlyOf.of_map (vfsWrite_taskFdMap fd buf)) hne
  | lseek fd offset whence =>
    exact hrefl.setVfs (Vfs.OnlyOf.of_map (vfsLseek_taskFdMap fd offset whence)) hne
  | ftruncate fd size => exact hrefl.setVfs (Vfs.OnlyOf.of_map (vfsFtruncate_taskFdMap fd size)) hne
  | fcntl fd cmd arg => exact hrefl.setVfs (Vfs.OnlyOf.of_map (vfsFcntl_taskFdMap fd cmd arg)) hne
  | socket type protocol => exact hrefl.setSockets _ hne
  | setSocket fd entry =>
    simp only [taskCall]
    split
    · exact hrefl.setSockets _ hne
    · exact hrefl
  | epollCreate => exact hrefl.setEpolls _ hne
  | epollClose epfd =>
    simp only [taskCall]
    split
    · exact hrefl.setEpolls _ hne
    · exact hrefl
  | ioSetup maxevents => exact hrefl.setAio (aioAllocContext_ownedBy _ maxevents hne)
  | mapPage va =>
    simp only [taskCall]
    split_ifs
    · exact onPages_keepsSlot _
    · exact hrefl
  | unmapPage va =>
    simp only [taskCall]
    exact onPages_keepsSlot _
  | protectPage va writable =>
    simp only [taskCall]
    exact onPages_keepsSlot _
  | store va v =>
    simp only [taskCall]
    exact onPages_keepsSlot _
  | fork =>
    simp only [taskCall]
    split_ifs with hspace
    · refine fork_keepsSlot hrun.1 fun hbuilt => ?_
      simpa only [gives, if_pos (⟨hrun, hspace, hbuilt⟩ : _ ∧ _ ∧ _)] using hgives
    · exact hrefl
  | exit => exact exitTask_keepsSlot hne
  | kill target =>
    simp only [taskCall]
    split_ifs
    · exact hrefl
    · exact endTask_keepsSlot s target
  | exec path pages valid =>
    refine exec_keepsSlot path pages valid fun hok hbuilt hslot => ?_
    rw [gives, if_pos ⟨hrun, hok, hbuilt⟩, hslot] at hgives
    exact hgives rfl

lemma step_keepsSlot (hexited : s.exited slot = true) {o : SystemOp}
    (hgives : gives k s o ≠ some slot) : KeepsSlot slot s (step k ops s o) := by
  have hrefl : KeepsSlot slot s s := KeepsSlot.refl s
  cases o with
  | call task c =>
    simp only [step]
    split_ifs with hrun
    · refine taskCall_keepsSlot hrun ?_ hgives
      rintro rfl
      exact absurd (hrun.2.symm.trans hexited) (by decide)
    · exact hrefl
  | fault task =>
    simp only [step]
    split_ifs
    · exact endTask_keepsSlot s task
    · exact hrefl
  | reselect task =>
    simp only [step]
    split_ifs
    · exact ⟨hrefl.exited, rfl, rfl, fun _ => Iff.rfl, fun h => h⟩
    · exact hrefl
  | kernelAlloc | freePage => exact hrefl.setSpaces _

lemma run_keepsSlot {os : List SystemOp} (hexited : s.exited slot = true)
    (hos : Machine.Runs (fun s o => gives k s o ≠ some slot) (machineStep k ops) s os) :
    KeepsSlot slot s (Machine.run (machineStep k ops) s os) := by
  induction os generalizing s with
  | nil => exact KeepsSlot.refl s
  | cons o os ih =>
    have hstep : KeepsSlot slot s (step k ops s o) := step_keepsSlot hexited hos.1
    exact hstep.trans (ih (hstep.exited hexited) hos.2)

end

/-! ### Ends and starts -/

/-- The process in the slot ends: it exits, it is killed, or a fatal signal or a fault ends it. -/
def Ends (slot : Fin 8) (s : System β σ) : SystemOp → Prop
  | .call task .exit => task = slot ∧ s.Running slot
  | .call task (.kill target) => target = slot ∧ s.Running task ∧ s.Running slot
  | .fault task => task = slot ∧ s.Running slot
  | _ => False

/-- The task that a new process is forked from; none for an exec. -/
def parentOf : SystemOp → Option (Fin 8)
  | .call task .fork => some task
  | _ => none

def isExit : SystemOp → Bool
  | .call _ .exit => true
  | _ => false

/-- A new process owns nothing, but for the descriptors and rights that it has from its parent. -/
structure StartsClean (parent : Option (Fin 8)) (slot : Fin 8) (s : System β σ) : Prop where
  aio : ∀ i, ¬ (s.aioContexts i).OwnedBy slot
  sockets : ∀ i, (s.taskSockets slot i).used = false
  epolls : ∀ i, (s.taskEpolls slot i).used = false
  fds : ∀ i, s.vfs.taskFdMap (slot, i) < 0 ∨
    ∃ p ∈ parent, s.vfs.taskFdMap (slot, i) = s.vfs.taskFdMap (p, i)
  rights : ∀ i, s.proc.posix.fdRights slot i = 0 ∨
    ∃ p ∈ parent, s.proc.posix.fdRights slot i = s.proc.posix.fdRights p i

/-- What of the old process the creation of a new one does not clear: for a fork the contexts of
asynchronous I/O, for an exec also the sockets and the epoll objects. -/
structure NoLeftovers (parent : Option (Fin 8)) (slot : Fin 8) (s : System β σ) : Prop where
  aio : ∀ i, ¬ (s.aioContexts i).OwnedBy slot
  sockets : parent = none → ∀ i, (s.taskSockets slot i).used = false
  epolls : parent = none → ∀ i, (s.taskEpolls slot i).used = false

section

variable {k ops} {s s' : System β σ} {slot : Fin 8} {parent : Option (Fin 8)}

lemma KeepsSlot.noLeftovers_iff (h : KeepsSlot slot s s') :
    NoLeftovers parent slot s' ↔ NoLeftovers parent slot s := by
  constructor
  · rintro ⟨haio, hsockets, hepolls⟩
    refine ⟨fun i hi => haio i ((h.aio i).2 hi), fun hp i => ?_, fun hp i => ?_⟩
    · rw [← h.sockets]
      exact hsockets hp i
    · rw [← h.epolls]
      exact hepolls hp i
  · rintro ⟨haio, hsockets, hepolls⟩
    refine ⟨fun i hi => haio i ((h.aio i).1 hi), fun hp i => ?_, fun hp i => ?_⟩
    · rw [h.sockets]
      exact hsockets hp i
    · rw [h.epolls]
      exact hepolls hp i

lemma step_of_ends {o : SystemOp} (h : Ends slot s o) :
    (step k ops s o).exited slot = true ∧ (step k ops s o).vfs.NoFds slot ∧
      (NoLeftovers parent slot (step k ops s o) ↔ isExit o = true ∨ NoLeftovers parent slot s) := by
  have hended : ∀ t : System β σ, (endTask k ops t slot).exited slot = true ∧
      (endTask k ops t slot).vfs.NoFds slot :=
    fun t => ⟨update_self .., vfsCloseAllForTask_noFds⟩
  have hkept : ∀ t : System β σ,
      NoLeftovers parent slot (endTask k ops t slot) ↔ NoLeftovers parent slot t :=
    fun t => (endTask_keepsSlot t slot).noLeftovers_iff
  cases o with
  | call task c =>
    cases c with
    | exit =>
      obtain ⟨rfl, hrun⟩ := h
      simp only [step, if_pos hrun, taskCall, exitTask]
      refine ⟨(hended _).1, (hended _).2, ?_⟩
      rw [hkept]
      simp only [isExit, true_or, iff_true]
      refine ⟨fun i hi => ?_, fun _ i => ?_, fun _ i => ?_⟩
      · exact ((aioCloseAllForTask_ownedBy _ _ _ i).1 hi).1 rfl
      · simp [closeSockets, closeEpolls]
      · simp [closeSockets, closeEpolls]
    | kill target =>
      obtain ⟨rfl, hrun, hslot⟩ := h
      simp only [step, if_pos hrun, taskCall, hslot.1, Bool.false_eq_true, if_false]
      refine ⟨(hended s).1, (hended s).2, ?_⟩
      simp [isExit, hkept s]
    | _ => exact h.elim
  | fault task =>
    obtain ⟨rfl, hrun⟩ := h
    simp only [step, if_pos hrun]
    refine ⟨(hended s).1, (hended s).2, ?_⟩
    simp [isExit, hkept s]
  | _ => exact h.elim

lemma step_of_ends_frees (hs : s.spaces.Sound k.toKernelLayout) {o : SystemOp} (h : Ends slot s o)
    (hslot : s.spaces.HasSpace k.toKernelLayout slot) {place : Slot} {page : Nat}
    (hpage : s.spaces.owned slot place = some page) :
    ¬ (step k ops s o).spaces.paging.memoryBitmap.Used page := by
  have hfreed := hs.destroySpace_frees hslot hpage
  cases o with
  | call task c =>
    cases c with
    | exit =>
      obtain ⟨rfl, hrun⟩ := h
      simp only [step, if_pos hrun, taskCall]
      exact hfreed
    | kill target =>
      obtain ⟨rfl, hrun, hslot⟩ := h
      simp only [step, if_pos hrun, taskCall, hslot.1, Bool.false_eq_true, if_false]
      exact hfreed
    | _ => exact h.elim
  | fault task =>
    obtain ⟨rfl, hrun⟩ := h
    simp only [step, if_pos hrun]
    exact hfreed
  | _ => exact h.elim

end

end System

end NeuroSpark
