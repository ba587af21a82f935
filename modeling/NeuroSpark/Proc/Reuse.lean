import NeuroSpark.Proc.Slots
import NeuroSpark.Vfs.Backends

/-!
# A new process in an old slot

What the creation of a process clears depends on the call: a fork closes the sockets and the epoll
objects of the slot and copies the descriptors of the parent, an exec clears the rights only. With
what the end of the old process clears, this says when the new one starts clean.
-/

namespace NeuroSpark

lemma fdRights_posixApplyExecCredentials (s : Posix) (task : Fin 8) (path : CString) :
    (posixApplyExecCredentials s task path).fdRights = s.fdRights := by
  unfold posixApplyExecCredentials
  split_ifs
  · rfl
  · simp only [posixGetMode, posixGetOwner]
    cases (metaGetOrCreate s path).2 with
    | none => simp
    | some i =>
      cases (metaGetOrCreate (metaGetOrCreate s path).1 path).2 with
      | none => simp
      | some j => simp

lemma Processes.forkInto_fdRights (s : Processes) {child : Fin 8} (stackAllocated : Bool)
    (hne : s.current ≠ child) :
    (s.forkInto child stackAllocated).posix.fdRights child =
      (s.forkInto child stackAllocated).posix.fdRights s.current := by
  simp only [Processes.forkInto, posixCloneFdRights, Posix.fdRights_setFdRights,
    Function.update_self, Function.update_of_ne hne]

lemma Processes.finalizeUserProcess_fdRights (s : Processes) (stackAllocated : Bool) :
    (s.finalizeUserProcess stackAllocated).posix.fdRights 2 = fun _ => 0 := by
  simp [Processes.finalizeUserProcess, fdRights_posixApplyExecCredentials, posixTaskInit]

namespace System

variable {β σ : Type} {k : KernelImage} {ops : β → VfsBackendOps σ} {s : System β σ}
  {task slot : Fin 8}

lemma fork_startsClean (hrun : s.Running task) (hchild : s.proc.taskAllocSlot = some slot)
    (hbuilt : (forkSpace k s task).2 ≠ 0) :
    StartsClean (some task) slot (fork k s task) ↔ NoLeftovers (some task) slot s := by
  have hne : task ≠ slot := ne_of_taskAllocSlot hrun.1 hchild
  unfold fork
  rw [hchild]
  generalize forkSpace k s task = r at hbuilt ⊢
  simp only [if_neg hbuilt, createTask]
  generalize (s.spaces.setPaging r.1).createTask slot k.forkChildEntry r.2 = c
  constructor
  · rintro ⟨haio, -, -, -, -⟩
    exact ⟨haio, fun hnone => absurd hnone (by simp), fun hnone => absurd hnone (by simp)⟩
  · rintro ⟨haio, -, -⟩
    refine ⟨haio, fun i => ?_, fun i => ?_, fun i => ?_, fun i => ?_⟩
    · simp [closeSockets, closeEpolls]
    · simp [closeSockets, closeEpolls]
    · rcases (vfsCloneTaskFds_spec (s := s.vfs) hne).2 i with hnone | hsame
      · exact Or.inl hnone
      · exact Or.inr ⟨task, rfl, hsame⟩
    · right
      refine ⟨task, rfl, ?_⟩
      simp only [closeSockets, closeEpolls, procStep, Processes.step]
      have hslot : { s.proc with current := task }.taskAllocSlot = some slot := hchild
      rw [hslot]
      exact congrFun (Processes.forkInto_fdRights { s.proc with current := task } c.2 hne) i

lemma exec_startsClean {path : CString} {pages : List ImagePage} {valid : Bool}
    (hok : (posixCheckPathPermission s.proc.posix task path posixAccExec).2 = .ok 0)
    (hbuilt : (execSpace k s pages valid).2 ≠ 0) (hfds : s.vfs.NoFds 2) :
    StartsClean none 2 (exec k s task path pages valid) ↔ NoLeftovers none 2 s := by
  have hpath : path ≠ [] := (posixCheckPathPermission_ok hok).2
  unfold exec
  rw [hok]
  simp only [if_neg hbuilt, createTask]
  constructor
  · rintro ⟨haio, hsockets, hepolls, -, -⟩
    exact ⟨haio, fun _ => hsockets, fun _ => hepolls⟩
  · rintro ⟨haio, hsockets, hepolls⟩
    refine ⟨haio, hsockets rfl, hepolls rfl, fun i => Or.inl (hfds i), fun i => Or.inl ?_⟩
    simp only [procStep, Processes.step, Processes.setPosix]
    rw [hok]
    simp only [Processes.execUserProgram, if_neg hpath, if_true]
    rw [Processes.finalizeUserProcess_fdRights]

lemma step_of_gives {o : SystemOp} (h : gives k s o = some slot) (hfds : s.vfs.NoFds slot) :
    StartsClean (parentOf o) slot (step k ops s o) ↔ NoLeftovers (parentOf o) slot s := by
  cases o with
  | call task c =>
    cases c with
    | fork =>
      simp only [gives] at h
      split_ifs at h with hcond
      obtain ⟨hrun, hspace, hbuilt⟩ := hcond
      simp only [step, if_pos hrun, taskCall, if_pos hspace, parentOf]
      exact fork_startsClean hrun h hbuilt
    | exec path pages valid =>
      simp only [gives] at h
      split_ifs at h with hcond
      obtain ⟨hrun, hok, hbuilt⟩ := hcond
      obtain rfl : (2 : Fin 8) = slot := Option.some.inj h
      simp only [step, if_pos hrun, taskCall, parentOf]
      exact exec_startsClean hok hbuilt hfds
    | _ => exact absurd h (by simp [gives])
  | _ => exact absurd h (by simp [gives])

lemma sound_of_booted (hboot : s.spaces.paging.Booted k.toKernelLayout)
    (hnone : ∀ task, ¬ s.spaces.HasSpace k.toKernelLayout task) :
    s.spaces.Sound k.toKernelLayout :=
  ⟨hboot, fun task htask => absurd htask (hnone task), fun task htask => absurd htask (hnone task),
    fun task _ htask => absurd htask (hnone task)⟩

lemma run_sound (hs : s.spaces.Sound k.toKernelLayout) {os : List SystemOp}
    (hos : Machine.Runs (SparesMemory k) (machineStep k ops) s os) :
    (Machine.run (machineStep k ops) s os).spaces.Sound k.toKernelLayout :=
  Machine.run_invariant (I := fun s => s.spaces.Sound k.toKernelLayout)
    (fun _ _ hs ho => step_sound hs ho) hs hos

end System

/-- However the process in a slot ends, its pages are then free. The process that next gets the slot
starts clean if and only if the old one made `SYS_EXIT`, or had nothing that the new one's creation
leaves there. -/
theorem reusedSlot_clean_iff {β σ : Type} {k : KernelImage} {ops : β → VfsBackendOps σ}
    {s : System β σ} {slot : Fin 8} (hboot : s.spaces.paging.Booted k.toKernelLayout)
    (hnone : ∀ task, ¬ s.spaces.HasSpace k.toKernelLayout task) {pre mid : List SystemOp}
    {e c : SystemOp} (hpre : Machine.Runs (System.SparesMemory k) (System.machineStep k ops) s pre)
    (hends : System.Ends slot (Machine.run (System.machineStep k ops) s pre) e)
    (hmid : Machine.Runs (fun s o => System.gives k s o ≠ some slot) (System.machineStep k ops)
      (Machine.run (System.machineStep k ops) s (pre ++ [e])) mid)
    (hgives : System.gives k (Machine.run (System.machineStep k ops) s (pre ++ e :: mid)) c =
      some slot) :
    (System.StartsClean (System.parentOf c) slot
        (Machine.run (System.machineStep k ops) s (pre ++ e :: mid ++ [c])) ∧
      ((Machine.run (System.machineStep k ops) s pre).spaces.HasSpace k.toKernelLayout slot →
        ∀ place page,
          (Machine.run (System.machineStep k ops) s pre).spaces.owned slot place = some page →
          ¬ (Machine.run (System.machineStep k ops) s
            (pre ++ [e])).spaces.paging.memoryBitmap.Used page)) ↔
      System.isExit e = true ∨ System.NoLeftovers (System.parentOf c) slot
        (Machine.run (System.machineStep k ops) s pre) := by
  have hsound := System.run_sound (System.sound_of_booted hboot hnone) hpre
  simp only [Machine.run_append, Machine.run_cons, Machine.run_nil] at hmid hgives ⊢
  generalize Machine.run (System.machineStep k ops) s pre = s₁ at *
  change Machine.Runs _ _ (System.step k ops s₁ e) mid at hmid
  obtain ⟨hexited, hfds, hleft⟩ : _ ∧ _ ∧
      (System.NoLeftovers (System.parentOf c) slot (System.step k ops s₁ e) ↔ _) :=
    System.step_of_ends hends
  have hkept := System.run_keepsSlot hexited hmid
  have hstart : System.StartsClean (System.parentOf c) slot (System.step k ops
      (Machine.run (System.machineStep k ops) (System.step k ops s₁ e) mid) c) ↔ _ :=
    System.step_of_gives hgives (hkept.noFds hfds)
  have hfrees : s₁.spaces.HasSpace k.toKernelLayout slot → ∀ place page,
      s₁.spaces.owned slot place = some page →
      ¬ (System.step k ops s₁ e).spaces.paging.memoryBitmap.Used page :=
    fun hslot place page hpage => System.step_of_ends_frees hsound hends hslot hpage
  exact (and_iff_left hfrees).trans (hstart.trans (hkept.noLeftovers_iff.trans hleft))

/-- A kernel of eight pages, the first of them its directory. -/
def smallKernel : KernelImage where
  pageDirectory := 0x100000
  kernelEnd := 0x108000
  directory_aligned := kernelOf2MB.directory_aligned
  directory_in_bss := by decide
  fits := by decide
  forkChildEntry := 0x101000
  userTaskEntry := 0x101010

/-- The kernel after booting, with the user of `Processes.user` at the shell. -/
def System.boot : System Backend BackendState where
  proc := Processes.user
  vfs := vfsInit (Vfs.blank Backend) BackendState.init .tfs
  taskSockets _ _ := NsSocketEntry.closed
  taskEpolls _ _ := ⟨false, fun _ => NsEpollWatch.none⟩
  aioContexts _ := ⟨false, -1, 0⟩
  spaces :=
    { paging := ⟨fun i => if i < 33 then 0xFF else 0, fun _ _ => 0⟩
      pageDir := fun task => if task = 0 then smallKernel.pageDirectory else 0 }
  exited _ := false

/-- The user starts a program in slot 2. -/
def startProgram : SystemOp := .call 0 (.exec programPath [] true)

lemma System.boot_booted : System.boot.spaces.paging.Booted smallKernel.toKernelLayout := by
  refine ⟨fun page hpage => ?_, fun i _ => ?_⟩
  · have hlt : page < 264 := by
      change page * 4096 < 0x108000 at hpage
      omega
    have hall : ∀ page < 264, System.boot.spaces.paging.memoryBitmap.Used page := by
      decide +kernel
    exact hall page hlt
  · exact BitVec.zero_and

lemma System.boot_noSpace (task : Fin 8) :
    ¬ System.boot.spaces.HasSpace smallKernel.toKernelLayout task := by
  revert task
  decide

instance (s : Paging) : Decidable (StackFits s) :=
  inferInstanceAs (Decidable (∀ i ≤ 3, _))

lemma System.startProgram_fits : System.SparesMemory smallKernel System.boot startProgram := by
  change (execSpace smallKernel System.boot [] true).2 ≠ 0 →
    StackFits (execSpace smallKernel System.boot [] true).1
  decide +kernel

set_option maxRecDepth 20000 in
/-- A program that exits leaves nothing to the next one. -/
theorem reusedSlot_clean_exit :
    System.StartsClean none 2 (Machine.run (System.machineStep smallKernel backendOps) System.boot
      [startProgram, .call 2 .exit, startProgram]) := by
  let step := System.machineStep smallKernel backendOps
  have hpre : Machine.Runs (System.SparesMemory smallKernel) step System.boot [startProgram] :=
    ⟨System.startProgram_fits, trivial⟩
  have hends : System.Ends 2 (Machine.run step System.boot [startProgram]) (.call 2 .exit) :=
    ⟨rfl, by decide⟩
  have hmid : Machine.Runs (fun s o => System.gives smallKernel s o ≠ some 2) step
      (Machine.run step System.boot ([startProgram] ++ [.call 2 .exit])) [] := trivial
  have hgives : System.gives smallKernel
      (Machine.run step System.boot ([startProgram] ++ [.call 2 .exit])) startProgram = some 2 := by
    decide
  exact ((reusedSlot_clean_iff System.boot_booted System.boot_noSpace hpre hends hmid hgives).2
    (Or.inl rfl)).1

set_option maxRecDepth 20000 in
/-- The program sets up asynchronous I/O and faults. The next program in the slot owns its context.
-/
theorem reusedSlot_not_clean :
    System.Ends 2 (Machine.run (System.machineStep smallKernel backendOps) System.boot
        [startProgram, .call 2 (.ioSetup 8)]) (.fault 2) ∧
      System.gives smallKernel (Machine.run (System.machineStep smallKernel backendOps) System.boot
        [startProgram, .call 2 (.ioSetup 8), .fault 2]) startProgram = some 2 ∧
      ¬ System.StartsClean none 2 (Machine.run (System.machineStep smallKernel backendOps)
        System.boot [startProgram, .call 2 (.ioSetup 8), .fault 2, startProgram]) := by
  refine ⟨⟨rfl, by decide⟩, by decide, fun hclean => ?_⟩
  exact hclean.aio 0 (by decide)

end NeuroSpark
