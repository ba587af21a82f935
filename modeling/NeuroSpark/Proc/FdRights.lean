import NeuroSpark.Proc.OpenRights
import NeuroSpark.Proc.Reuse
import NeuroSpark.Vfs.OpenFiles

/-!
# The rights of the descriptors

`g_fd_rights` lies beside the maps of the descriptors. `SYS_OPEN` and `SYS_CLOSE` keep the two
together and `SYS_FORK` copies both, but `SYS_DUP` and `SYS_DUP2` move descriptors only.
-/

namespace NeuroSpark

open Function (update update_self update_of_ne)

/-- The system calls that open, move and close descriptors. -/
inductive FdCall where
  | openFile (path : CString) (flags : UInt32)
  | close (fd : Int)
  | dup (fd : Int)
  | dup2 (fd newfd : Int)
  | pipe
  | fork

def FdCall.toTaskCall : FdCall → TaskCall
  | .openFile path flags => .openFile path flags
  | .close fd => .close fd
  | .dup fd => .dup fd
  | .dup2 fd newfd => .dup2 fd newfd
  | .pipe => .pipe
  | .fork => .fork

/-- A file that was opened to be read. -/
def OpenedToRead (x : Option UInt32) : Prop := ∃ flags, x = some flags ∧ flags &&& vfsORdonly ≠ 0

/-- A file that was opened to be written. -/
def OpenedToWrite (x : Option UInt32) : Prop := ∃ flags, x = some flags ∧ flags &&& vfsOWronly ≠ 0

/-- Two files, or none, that were opened for the same accesses. -/
def SameAccesses (x y : Option UInt32) : Prop :=
  (OpenedToRead x ↔ OpenedToRead y) ∧ (OpenedToWrite x ↔ OpenedToWrite y)

/-- The rights of a descriptor of this file. Without a file there are none, not even to execute. -/
def RightsFor : Option UInt32 → Nat → Prop
  | some flags, rights => MaskAgrees flags rights
  | none, rights => rights = 0

namespace System

variable {β σ : Type}

section

variable (k : KernelImage) (ops : β → VfsBackendOps σ)

/-- A system call of a task on descriptors. -/
def fdCallStep (s : System β σ) (o : Fin 8 × FdCall) : System β σ × Unit :=
  (step k ops s (.call o.1 o.2.toTaskCall), ())

/-- What `posix.c` keeps for a descriptor. -/
def fdRight (s : System β σ) (p : Fin 8 × Fin 256) : Nat := s.proc.posix.fdRights p.1 p.2

/-- `posix_check_fd_permission` lets the task. -/
def Grants (s : System β σ) (task : Fin 8) (fd : Int) (mask : Nat) : Prop :=
  posixCheckFdPermission s.proc.posix task fd mask = .ok 0

/-- The rights are those of the files, and users are let and refused accordingly. -/
structure RightsFollow (s : System β σ) : Prop where
  rights : ∀ p, RightsFor (s.vfs.openedWith p) (s.fdRight p)
  checked : ∀ task fd, (s.proc.posix.id task).euid ≠ 0 →
    (s.Grants task fd posixAccRead ↔ OpenedToRead (s.vfs.openedFd task fd)) ∧
      (s.Grants task fd posixAccWrite ↔ OpenedToWrite (s.vfs.openedFd task fd))

/-- `SYS_OPEN` gives a descriptor. -/
def Opens (s : System β σ) (task : Fin 8) (path : CString) (flags : UInt32) : Prop :=
  (posixCheckPathPermission s.proc.posix task path (Processes.openAccessMask flags)).2 = .ok 0 ∧
    ∃ fd, (vfsOpen ops s.vfs (task : Nat) path flags).2 = .ok fd

/-- The number is that of a file, for `SYS_CLOSE`. -/
def ClosesFile (s : System β σ) (task : Fin 8) (fd : Int) (i : Fin 256) : Prop :=
  localFd fd = some i ∧ nsSocketEntryForFd (s.taskSockets task) fd = none ∧
    nsEpollObjectForFd (s.taskEpolls task) fd = none

/-- A call that gives a running task no descriptor for other accesses than are recorded. -/
def KeepsRights (s : System β σ) (o : Fin 8 × FdCall) : Prop :=
  s.Running o.1 →
    match o.2 with
    | .openFile path flags => s.Opens ops o.1 path flags → OneAccess flags
    | .close fd => ∀ i, s.ClosesFile o.1 fd i → s.vfs.CloseRefused ops (o.1, i) →
        s.fdRight (o.1, i) = 0
    | .dup fd => ∀ i, allocTaskFd s.vfs o.1 = some i →
        SameAccesses (s.vfs.openedFd o.1 fd) (s.vfs.openedWith (o.1, i))
    | .dup2 fd newfd => ∀ i, localFd newfd = some i → fd ≠ newfd →
        s.vfs.openedFd o.1 fd ≠ none →
        SameAccesses (s.vfs.openedFd o.1 fd) (s.vfs.openedWith (o.1, i))
    | .pipe => True
    | .fork => gives k s (.call o.1 .fork) ≠ none → s.proc.brkBase o.1 = 0 →
        ∀ i, SameAccesses (s.vfs.openedWith (o.1, i)) none

end

end System

section

variable {flags : UInt32} {x : Option UInt32} {rights : Nat}

lemma openedToRead_some : OpenedToRead (some flags) ↔ flags &&& vfsORdonly ≠ 0 := by
  constructor
  · rintro ⟨flags, heq, hread⟩
    cases heq
    exact hread
  · exact fun hread => ⟨flags, rfl, hread⟩

lemma openedToWrite_some : OpenedToWrite (some flags) ↔ flags &&& vfsOWronly ≠ 0 := by
  constructor
  · rintro ⟨flags, heq, hwrite⟩
    cases heq
    exact hwrite
  · exact fun hwrite => ⟨flags, rfl, hwrite⟩

lemma not_openedToRead_none : ¬ OpenedToRead none := fun ⟨_, heq, _⟩ => nomatch heq

lemma not_openedToWrite_none : ¬ OpenedToWrite none := fun ⟨_, heq, _⟩ => nomatch heq

lemma RightsFor.access (h : RightsFor x rights) :
    (rights &&& posixAccRead ≠ 0 ↔ OpenedToRead x) ∧
      (rights &&& posixAccWrite ≠ 0 ↔ OpenedToWrite x) := by
  cases x with
  | none =>
    obtain rfl : rights = 0 := h
    exact ⟨iff_of_false (by decide) not_openedToRead_none,
      iff_of_false (by decide) not_openedToWrite_none⟩
  | some flags =>
    rw [openedToRead_some, openedToWrite_some]
    exact h

lemma RightsFor.some_iff (h : RightsFor x rights) :
    RightsFor (some flags) rights ↔ SameAccesses (some flags) x := by
  obtain ⟨hread, hwrite⟩ := h.access
  change (_ ↔ _) ∧ (_ ↔ _) ↔ _
  rw [SameAccesses, hread, hwrite, openedToRead_some, openedToWrite_some]
  exact and_congr Iff.comm Iff.comm

lemma rightsFor_zero_iff : RightsFor x 0 ↔ SameAccesses x none := by
  cases x with
  | none => exact iff_of_true rfl ⟨Iff.rfl, Iff.rfl⟩
  | some flags =>
    have hzero : RightsFor none 0 := rfl
    exact hzero.some_iff

end

lemma Processes.ensure_fdRights (s : Processes) (task q : Fin 8) :
    (s.ensureTaskIdentityDefaults task).posix.fdRights q =
      if q = task ∧ s.brkBase task = 0 then fun _ => 0 else s.posix.fdRights q := by
  unfold Processes.ensureTaskIdentityDefaults
  by_cases hbrk : s.brkBase task = 0
  · rw [if_pos hbrk]
    simp only [posixTaskInit, Posix.fdRights_setFdRights, Posix.fdRights_setId]
    rcases eq_or_ne q task with rfl | hne
    · rw [update_self, if_pos ⟨rfl, hbrk⟩]
    · rw [update_of_ne hne, if_neg fun h => hne h.1]
  · rw [if_neg hbrk, if_neg fun h => hbrk h.2]

lemma Processes.forkInto_fdRights_eq (s : Processes) {child : Fin 8} (stackAllocated : Bool)
    (hne : s.current ≠ child) (q : Fin 8) :
    (s.forkInto child stackAllocated).posix.fdRights q =
      if q = child ∨ q = s.current then
        (if s.brkBase s.current = 0 then fun _ => 0 else s.posix.fdRights s.current)
      else s.posix.fdRights q := by
  have hcreated : ∀ b, (s.createTask child b).posix = s.posix ∧
      (s.createTask child b).brkBase = s.brkBase := by
    intro b
    cases b <;> exact ⟨rfl, rfl⟩
  obtain ⟨hposix, hbrk⟩ := hcreated stackAllocated
  simp only [Processes.forkInto, posixCloneFdRights, posixTaskOnFork, Posix.fdRights_setFdRights,
    Posix.fdRights_setId]
  rcases eq_or_ne q child with rfl | hq
  · rw [update_self, if_pos (Or.inl rfl), Processes.ensure_fdRights,
      if_neg fun h => hne h.1, Processes.ensure_fdRights, hposix, hbrk]
    simp only [true_and]
  · rw [update_of_ne hq, Processes.ensure_fdRights, if_neg fun h => hq h.1,
      Processes.ensure_fdRights, hposix, hbrk]
    by_cases hcurrent : q = s.current
    · rw [if_pos (Or.inr hcurrent), hcurrent]
      simp only [true_and]
    · rw [if_neg fun h => hcurrent h.1, if_neg (not_or.2 ⟨hq, hcurrent⟩)]

namespace System

variable {β σ : Type} {k : KernelImage} {ops : β → VfsBackendOps σ} {s t : System β σ}

lemma two_pow_and_eq_iff (rights k : Nat) : 2 ^ k &&& rights = 2 ^ k ↔ rights &&& 2 ^ k ≠ 0 := by
  rw [Nat.and_comm, Nat.and_two_pow]
  cases rights.testBit k with
  | false => simp [(Nat.two_pow_pos k).ne]
  | true => simp

lemma grants_iff {task : Fin 8} {fd : Int} {mask k : Nat} (hmask : mask = 2 ^ k)
    (huser : (s.proc.posix.id task).euid ≠ 0) :
    s.Grants task fd mask ↔ ∃ i, localFd fd = some i ∧ s.fdRight (task, i) &&& mask ≠ 0 := by
  unfold Grants posixCheckFdPermission fdRight
  cases hi : localFd fd with
  | none => exact iff_of_false (fun h => nomatch h) fun ⟨_, h, _⟩ => nomatch h
  | some i =>
    dsimp only
    have hbit := two_pow_and_eq_iff (s.proc.posix.fdRights task i) k
    rw [← hmask] at hbit
    rw [if_neg huser]
    by_cases hright : mask &&& s.proc.posix.fdRights task i = mask
    · rw [if_neg (not_not.2 hright)]
      exact iff_of_true rfl ⟨i, rfl, hbit.1 hright⟩
    · rw [if_pos hright]
      refine iff_of_false (fun h => nomatch h) ?_
      rintro ⟨j, heq, h⟩
      cases heq
      exact hright (hbit.2 h)

lemma rightsFollow_iff : s.RightsFollow ↔ ∀ p, RightsFor (s.vfs.openedWith p) (s.fdRight p) := by
  refine ⟨fun h => h.rights, fun h => ⟨h, fun task fd huser => ?_⟩⟩
  have hread : posixAccRead = 2 ^ 2 := rfl
  have hwrite : posixAccWrite = 2 ^ 1 := rfl
  rw [grants_iff hread huser, grants_iff hwrite huser]
  unfold Vfs.openedFd
  cases hi : localFd fd with
  | none =>
    refine ⟨iff_of_false ?_ not_openedToRead_none, iff_of_false ?_ not_openedToWrite_none⟩ <;>
    · rintro ⟨i, heq, -⟩
      cases heq
  | some i =>
    obtain ⟨hread, hwrite⟩ := (h (task, i)).access
    rw [Option.bind_some, ← hread, ← hwrite]
    constructor <;>
    · constructor
      · rintro ⟨j, heq, hright⟩
        cases heq
        exact hright
      · exact fun hright => ⟨i, rfl, hright⟩

lemma rightsFollow_set {p : Fin 8 × Fin 256} {x : Option UInt32} (hs : s.RightsFollow)
    (hset : s.vfs.Sets p x t.vfs) (hrights : ∀ q, q ≠ p → t.fdRight q = s.fdRight q) :
    t.RightsFollow ↔ RightsFor x (t.fdRight p) := by
  rw [rightsFollow_iff, hset.openedWith]
  constructor
  · intro h
    have hp := h p
    rwa [update_self] at hp
  · intro h q
    rcases eq_or_ne q p with rfl | hne
    · rwa [update_self]
    · rw [update_of_ne hne, hrights q hne]
      exact hs.rights q

lemma rightsFollow_same (hs : s.RightsFollow) (hsame : t.vfs.openedWith = s.vfs.openedWith)
    (hrights : t.fdRight = s.fdRight) : t.RightsFollow := by
  rw [rightsFollow_iff, hsame, hrights]
  exact hs.rights

/-- What a call has done: the rights follow if and only if the call was one that keeps them. -/
structure Exact (k : KernelImage) (ops : β → VfsBackendOps σ) (s : System β σ)
    (o : Fin 8 × FdCall) (t : System β σ) : Prop where
  referenced : t.vfs.Referenced
  rightsFollow_iff : t.RightsFollow ↔ s.KeepsRights k ops o

variable {o : Fin 8 × FdCall} {task : Fin 8}

section

variable (hv : s.vfs.Referenced) (hs : s.RightsFollow)
include hv hs

lemma Exact.of_same (hsame : s.vfs.SameMaps t.vfs) (hrights : t.fdRight = s.fdRight)
    (hkeeps : s.KeepsRights k ops o) : s.Exact k ops o t :=
  ⟨hsame.referenced hv, iff_of_true (rightsFollow_same hs hsame.openedWith hrights) hkeeps⟩

omit hv hs in
lemma Exact.of_set {p : Fin 8 × Fin 256} {x : Option UInt32} (hs : s.RightsFollow)
    (hset : s.vfs.Sets p x t.vfs) (hrights : ∀ q, q ≠ p → t.fdRight q = s.fdRight q)
    (hkeeps : RightsFor x (t.fdRight p) ↔ s.KeepsRights k ops o) : s.Exact k ops o t :=
  ⟨hset.referenced, (rightsFollow_set hs hset hrights).trans hkeeps⟩

omit hv hs in
lemma fdRight_eq_update (task : Fin 8) (i : Fin 256) (rights : Nat) (p : Fin 8 × Fin 256) :
    update s.fdRight (task, i) rights p = update s.proc.posix.fdRights task
      (update (s.proc.posix.fdRights task) i rights) p.1 p.2 := by
  obtain ⟨task', i'⟩ := p
  rcases eq_or_ne task' task with rfl | hne
  · rw [update_self]
    rcases eq_or_ne i' i with rfl | hne
    · rw [update_self, update_self]
    · rw [update_of_ne hne, update_of_ne fun h => hne (Prod.mk.inj h).2]
      rfl
  · rw [update_of_ne hne, update_of_ne fun h => hne (Prod.mk.inj h).1]
    rfl

omit hv hs in
lemma fdRight_openFile_none (path : CString) (flags : UInt32) :
    (s.procStep task (.openFile path flags none)).fdRight = s.fdRight := by
  funext p
  simp only [fdRight, procStep, Processes.step]
  cases (posixCheckPathPermission s.proc.posix task path
      (Processes.openAccessMask flags)).2 <;>
    exact congrFun (congrFun (fdRights_posixCheckPathPermission ..) p.1) p.2

omit hv hs in
lemma fdRight_openFile_some {path : CString} {flags : UInt32} {fd : Int} {i : Fin 256} {n : Nat}
    (hcheck : (posixCheckPathPermission s.proc.posix task path
      (Processes.openAccessMask flags)).2 = .ok n) (hi : localFd fd = some i) :
    ∃ exec, (exec = 0 ∨ exec = posixAccExec) ∧
      (s.procStep task (.openFile path flags (some fd))).fdRight =
        update s.fdRight (task, i) (Processes.openAccessMask flags ||| exec) := by
  obtain ⟨exec, hexec, hrights⟩ := posixTrackFdOpen_fdRights
    (posixCheckPathPermission s.proc.posix task path (Processes.openAccessMask flags)).1
    task path flags hi
  rw [fdRights_posixCheckPathPermission] at hrights
  refine ⟨exec, hexec, funext fun p => ?_⟩
  rw [fdRight_eq_update task i]
  simp only [fdRight, procStep, Processes.step, hcheck, Processes.setPosix, hrights]

lemma openFile_exact (hrun : s.Running task) (path : CString) (flags : UInt32) :
    s.Exact k ops (task, .openFile path flags) (openFile ops s task path flags) := by
  have hkeeps : s.KeepsRights k ops (task, .openFile path flags) ↔
      (s.Opens ops task path flags → OneAccess flags) := forall_prop_of_true hrun
  unfold openFile
  cases hcheck : (posixCheckPathPermission s.proc.posix task path
      (Processes.openAccessMask flags)).2 with
  | error e =>
    refine Exact.of_same hv hs (.of_eq rfl rfl) (fdRight_openFile_none path flags) ?_
    rw [hkeeps, Opens, hcheck]
    exact fun h => nomatch h.1
  | ok n =>
    dsimp only
    cases hopen : (vfsOpen ops s.vfs (task : Nat) path flags).2 with
    | error e =>
      refine Exact.of_same hv hs (vfsOpen_sameMaps hopen) (fdRight_openFile_none path flags) ?_
      rw [hkeeps, Opens, hopen]
      rintro ⟨-, fd, heq⟩
      cases heq
    | ok fd =>
      obtain ⟨i, hi, -, hset⟩ := vfsOpen_sets hv hopen
      obtain ⟨exec, hexec, hright⟩ := fdRight_openFile_some (s := { s with vfs :=
        (vfsOpen ops s.vfs (task : Nat) path flags).1 }) hcheck hi
      refine Exact.of_set hs hset (fun q hq => ?_) ?_
      · rw [hright, update_of_ne hq]
        rfl
      · rw [hright, update_self, hkeeps, Opens, hcheck, hopen]
        obtain ⟨rfl, -⟩ := posixCheckPathPermission_ok hcheck
        refine (maskAgrees_iff hexec).trans ⟨fun hone _ => hone, fun hone => hone ⟨rfl, fd, rfl⟩⟩

lemma closeFd_exact (hrun : s.Running task)
    (fd : Int) : s.Exact k ops (task, .close fd) (closeFd ops s task fd) := by
  have hkeeps : s.KeepsRights k ops (task, .close fd) ↔ ∀ i, s.ClosesFile task fd i →
      s.vfs.CloseRefused ops (task, i) → s.fdRight (task, i) = 0 := forall_prop_of_true hrun
  have hother : (∀ i, ¬ s.ClosesFile task fd i) → s.KeepsRights k ops (task, .close fd) :=
    fun hno => hkeeps.2 fun i h => absurd h (hno i)
  unfold closeFd
  cases hsocket : nsSocketEntryForFd (s.taskSockets task) fd with
  | some j =>
    refine Exact.of_same hv hs (.of_eq rfl rfl) rfl (hother fun i h => ?_)
    cases hsocket.symm.trans h.2.1
  | none =>
    cases hepoll : nsEpollObjectForFd (s.taskEpolls task) fd with
    | some j =>
      refine Exact.of_same hv hs (.of_eq rfl rfl) rfl (hother fun i h => ?_)
      cases hepoll.symm.trans h.2.2
    | none =>
      dsimp only
      cases hi : localFd fd with
      | none =>
        have hself : vfsClose ops s.vfs (task : Nat) fd = (s.vfs, .error .invalidFd) := by
          unfold vfsClose
          rw [hi]
        rw [hself]
        refine Exact.of_same hv hs (.of_eq rfl rfl) rfl (hother fun i h => ?_)
        cases hi.symm.trans h.1
      | some i =>
        have hkeeps' : s.KeepsRights k ops (task, .close fd) ↔
            (s.vfs.CloseRefused ops (task, i) → s.fdRight (task, i) = 0) := by
          refine hkeeps.trans ⟨fun h => h i ⟨hi, hsocket, hepoll⟩, fun h j hj => ?_⟩
          rwa [← Option.some.inj (hi.symm.trans hj.1)]
        by_cases hpos : 0 ≤ s.vfs.taskFdMap (task, i)
        · have herror : (∃ e, (vfsClose ops s.vfs (task : Nat) fd).2 = .error e) ↔
              s.vfs.CloseRefused ops (task, i) := vfsClose_error_iff hv hi hpos
          have hset : s.vfs.Sets (task, i) none (vfsClose ops s.vfs (task : Nat) fd).1 :=
            vfsClose_sets hv hi
          cases hclose : (vfsClose ops s.vfs (task : Nat) fd).2 with
          | error e =>
            refine Exact.of_set hs hset (fun q _ => rfl) (hkeeps'.trans ?_).symm
            exact forall_prop_of_true (herror.1 ⟨e, hclose⟩)
          | ok n =>
            have hright : ({ s with vfs := (vfsClose ops s.vfs (task : Nat) fd).1 }.procStep task
                (.close fd)).fdRight = update s.fdRight (task, i) 0 := by
              funext p
              rw [fdRight_eq_update]
              simp only [fdRight, procStep, Processes.step, Processes.setPosix,
                posixTrackFdClose, hi, Posix.fdRights_setFdRights]
            refine Exact.of_set hs hset (fun q hq => ?_) ?_
            · rw [hright, update_of_ne hq]
            · rw [hright, update_self, hkeeps', ← herror, hclose]
              refine iff_of_true rfl ?_
              rintro ⟨e, heq⟩
              cases heq
        · have hneg := not_le.1 hpos
          have hself : vfsClose ops s.vfs (task : Nat) fd = (s.vfs, .error .invalidFd) := by
            unfold vfsClose
            rw [currentTaskId_cast, hi]
            exact if_pos hneg
          rw [hself]
          refine Exact.of_same hv hs (.of_eq rfl rfl) rfl (hkeeps'.2 ?_)
          rintro ⟨g, o, e, hopen, -⟩
          rw [Vfs.openGlobalFd_of_neg hneg] at hopen
          cases hopen

lemma dup_exact (hrun : s.Running task) (fd : Int) :
    s.Exact k ops (task, .dup fd) { s with vfs := (vfsDup s.vfs (task : Nat) fd).1 } := by
  have hkeeps : s.KeepsRights k ops (task, .dup fd) ↔ ∀ i, allocTaskFd s.vfs task = some i →
      SameAccesses (s.vfs.openedFd task fd) (s.vfs.openedWith (task, i)) :=
    forall_prop_of_true hrun
  cases hi : allocTaskFd s.vfs task with
  | none =>
    rw [vfsDup_eq_self (Or.inr hi)]
    refine Exact.of_same hv hs (.of_eq rfl rfl) rfl (hkeeps.2 fun i h => ?_)
    cases hi.symm.trans h
  | some i =>
    rw [hi] at hkeeps
    cases hfd : s.vfs.openedFd task fd with
    | none =>
      rw [vfsDup_eq_self (Or.inl hfd)]
      refine Exact.of_same hv hs (.of_eq rfl rfl) rfl (hkeeps.2 fun j h => ?_)
      obtain rfl : i = j := Option.some.inj h
      rw [hfd, Vfs.openedWith_of_neg (allocTaskFd_neg hi)]
      exact ⟨Iff.rfl, Iff.rfl⟩
    | some flags =>
      refine Exact.of_set hs (vfsDup_sets hv hfd hi) (fun q _ => rfl) ?_
      rw [hkeeps, hfd]
      refine (hs.rights (task, i)).some_iff.trans ⟨fun h j hj => ?_, fun h => h i rfl⟩
      rwa [← Option.some.inj hj]

lemma dup2_exact (hrun : s.Running task) (fd newfd : Int) : s.Exact k ops (task, .dup2 fd newfd)
      { s with vfs := (vfsDup2 ops s.vfs (task : Nat) fd newfd).1 } := by
  have hkeeps : s.KeepsRights k ops (task, .dup2 fd newfd) ↔ ∀ i, localFd newfd = some i →
      fd ≠ newfd → s.vfs.openedFd task fd ≠ none →
      SameAccesses (s.vfs.openedFd task fd) (s.vfs.openedWith (task, i)) :=
    forall_prop_of_true hrun
  by_cases hno : s.vfs.openedFd task fd = none ∨ localFd newfd = none ∨ fd = newfd
  · rw [vfsDup2_eq_self hno]
    refine Exact.of_same hv hs (.of_eq rfl rfl) rfl (hkeeps.2 fun i hi hne hopen => ?_)
    rcases hno with hno | hno | hno
    · exact absurd hno hopen
    · cases hno.symm.trans hi
    · exact absurd hno hne
  · obtain ⟨hopen, hlocal, hne⟩ := not_or.1 hno |>.imp_right not_or.1
    obtain ⟨flags, hfd⟩ := Option.ne_none_iff_exists'.1 hopen
    obtain ⟨i, hi⟩ := Option.ne_none_iff_exists'.1 hlocal
    refine Exact.of_set hs (vfsDup2_sets hv hfd hi hne) (fun q _ => rfl) ?_
    rw [hkeeps, hfd, hi]
    refine (hs.rights (task, i)).some_iff.trans ⟨fun h j hj _ _ => ?_, fun h => ?_⟩
    · rwa [← Option.some.inj hj]
    · exact h i rfl hne (Option.some_ne_none flags)

omit hv hs in
/-- The child has the descriptors and the rights of its parent, which are gone if the parent was
taken for new. -/
lemma rightsFollow_fork (hs : s.RightsFollow) {child : Fin 8} (hne : task ≠ child)
    (hopened : ∀ q, t.vfs.openedWith q =
      if q.1 = child then s.vfs.openedWith (task, q.2) else s.vfs.openedWith q)
    (hrights : ∀ q, t.proc.posix.fdRights q = if q = child ∨ q = task then
      (if s.proc.brkBase task = 0 then fun _ => 0 else s.proc.posix.fdRights task)
      else s.proc.posix.fdRights q) :
    t.RightsFollow ↔ (s.proc.brkBase task = 0 →
      ∀ i, SameAccesses (s.vfs.openedWith (task, i)) none) := by
  rw [rightsFollow_iff]
  constructor
  · intro h hbrk i
    have hi := h (task, i)
    rw [hopened, if_neg hne, fdRight, hrights, if_pos (Or.inr rfl), if_pos hbrk] at hi
    exact rightsFor_zero_iff.1 hi
  · rintro h ⟨q, i⟩
    have hparent : RightsFor (s.vfs.openedWith (task, i))
        ((if s.proc.brkBase task = 0 then fun _ => 0 else s.proc.posix.fdRights task) i) := by
      split_ifs with hbrk
      · exact rightsFor_zero_iff.2 (h hbrk i)
      · exact hs.rights (task, i)
    rw [hopened, fdRight, hrights]
    by_cases hchild : q = child
    · rw [if_pos hchild, if_pos (Or.inl hchild)]
      exact hparent
    · rw [if_neg hchild]
      by_cases htask : q = task
      · rw [if_pos (Or.inr htask), htask]
        exact hparent
      · rw [if_neg (not_or.2 ⟨hchild, htask⟩)]
        exact hs.rights (q, i)

lemma fork_exact (hrun : s.Running task) : s.Exact k ops (task, .fork)
      (if s.spaces.HasSpace k.toKernelLayout task then fork k s task else s) := by
  have hkeeps : s.KeepsRights k ops (task, .fork) ↔ (gives k s (.call task .fork) ≠ none →
      s.proc.brkBase task = 0 → ∀ i, SameAccesses (s.vfs.openedWith (task, i)) none) :=
    forall_prop_of_true hrun
  have hno : gives k s (.call task .fork) = none → s.KeepsRights k ops (task, .fork) :=
    fun hnone => hkeeps.2 fun h => absurd hnone h
  split_ifs with hspace
  · unfold fork
    cases hchild : s.proc.taskAllocSlot with
    | none =>
      refine Exact.of_same hv hs (.of_eq rfl rfl) rfl (hno ?_)
      rw [gives, hchild, ite_self]
    | some child =>
      have hne : task ≠ child := ne_of_taskAllocSlot hrun.1 hchild
      dsimp only
      generalize hr : forkSpace k s task = r
      by_cases hzero : r.2 = 0
      · rw [if_pos hzero]
        refine Exact.of_same hv hs (.of_eq rfl rfl) rfl (hno ?_)
        rw [gives, hr, if_neg fun h => h.2.2 hzero]
      · rw [if_neg hzero]
        have hgives : gives k s (.call task .fork) ≠ none := by
          rw [gives, hr, if_pos ⟨hrun, hspace, hzero⟩, hchild]
          exact Option.some_ne_none child
        simp only [createTask]
        generalize { s with spaces := s.spaces.setPaging r.1 }.spaces.createTask child
          k.forkChildEntry r.2 = c
        obtain ⟨href, hopened⟩ := vfsCloneTaskFds_openedWith hv hne
        refine ⟨href, (rightsFollow_fork hs hne hopened fun q => ?_).trans
          ⟨fun h => hkeeps.2 fun _ => h, fun h => hkeeps.1 h hgives⟩⟩
        simp only [closeSockets, closeEpolls, procStep, Processes.step]
        have hslot : { s.proc with current := task }.taskAllocSlot = some child := hchild
        rw [hslot]
        exact Processes.forkInto_fdRights_eq { s.proc with current := task } c.2 hne q
  · refine Exact.of_same hv hs (.of_eq rfl rfl) rfl (hno ?_)
    rw [gives, if_neg fun h => hspace h.2.1]

lemma fdCallStep_exact (o : Fin 8 × FdCall) : s.Exact k ops o (fdCallStep k ops s o).1 := by
  obtain ⟨task, c⟩ := o
  by_cases hrun : s.Running task
  · have hstep : (fdCallStep k ops s (task, c)).1 = taskCall k ops s task c.toTaskCall :=
      if_pos hrun
    rw [hstep]
    cases c with
    | openFile path flags => exact openFile_exact hv hs hrun path flags
    | close fd => exact closeFd_exact hv hs hrun fd
    | dup fd => exact dup_exact hv hs hrun fd
    | dup2 fd newfd => exact dup2_exact hv hs hrun fd newfd
    | pipe =>
      have hsame : s.vfs.SameMaps (vfsPipe s.vfs (task : Nat)).1 := vfsPipe_sameMaps
      exact ⟨hsame.referenced hv, iff_of_true (rightsFollow_same hs hsame.openedWith rfl)
        fun _ => trivial⟩
    | fork => exact fork_exact hv hs hrun
  · have hstep : (fdCallStep k ops s (task, c)).1 = s := if_neg hrun
    rw [hstep]
    exact ⟨hv, iff_of_true hs fun h => absurd h hrun⟩

end

end System

/-- In every state of a run the rights follow the descriptors if and only if every call of the run
is one that keeps them. -/
theorem rightsFollow_iff_calls {β σ : Type} {k : KernelImage} {ops : β → VfsBackendOps σ}
    {s : System β σ} (hv : s.vfs.Referenced) (hs : s.RightsFollow) (calls : List (Fin 8 × FdCall)) :
    (∀ pre, pre <+: calls → (Machine.run (System.fdCallStep k ops) s pre).RightsFollow) ↔
      Machine.Runs (System.KeepsRights k ops) (System.fdCallStep k ops) s calls := by
  refine Machine.runs_iff_forall_prefix
    (I := fun s : System β σ => s.vfs.Referenced ∧ s.RightsFollow)
    ?_ (fun s hs => hs.2) ?_ ⟨hv, hs⟩ calls
  · rintro s o ⟨hv, hs⟩ hkeeps
    have hexact : s.Exact k ops o _ := System.fdCallStep_exact hv hs o
    exact ⟨hexact.referenced, hexact.rightsFollow_iff.2 hkeeps⟩
  · rintro s o ⟨hv, hs⟩ hfollow
    exact (System.fdCallStep_exact hv hs o).rightsFollow_iff.1 hfollow

lemma Vfs.Referenced.of_free {β σ : Type} {s : Vfs β σ} (h : ∀ p, s.taskFdMap p < 0) :
    s.Referenced where
  mapped p hp := absurd hp (not_le.2 (h p))
  counted g := by
    have hzero : Table.count s.taskFdMap (g : Int) = 0 := by
      refine Table.count_eq_zero_iff.2 fun p => ?_
      have hneg := h p
      omega
    rw [hzero]
    exact Nat.zero_le _

lemma System.boot_free (p : Fin 8 × Fin 256) : System.boot.vfs.taskFdMap p < 0 := by
  exact neg_one_lt_zero

lemma System.boot_rightsFollow : System.boot.RightsFollow := by
  rw [System.rightsFollow_iff]
  intro p
  rfl

/-- The user opens `/a` to read it. -/
def openToRead : Fin 8 × FdCall := (0, .openFile [slash, 97] (vfsORdonly ||| vfsOCreat))

/-- A file is opened, a pipe made and a descriptor duplicated. -/
theorem rightsFollow_iff_calls_boot :
    (Machine.run (System.fdCallStep smallKernel backendOps) System.boot
      [openToRead, (0, .pipe), (0, .dup2 0 0)]).RightsFollow := by
  have hkeeps : Machine.Runs (System.KeepsRights smallKernel backendOps)
      (System.fdCallStep smallKernel backendOps) System.boot
      [openToRead, (0, .pipe), (0, .dup2 0 0)] := by
    refine ⟨fun _ _ => ?_, fun _ => trivial, ?_, trivial⟩
    · exact iff_of_true (by decide) (by decide)
    · exact fun _ _ _ hne => absurd rfl hne
  exact (rightsFollow_iff_calls (Vfs.Referenced.of_free System.boot_free)
    System.boot_rightsFollow _).2 hkeeps _ (List.prefix_refl _)

/-- The user duplicates the descriptor, and may not read through the copy. -/
theorem rights_lost_by_dup :
    (System.boot.proc.posix.id 0).euid ≠ 0 ∧ System.boot.vfs.Referenced ∧
      System.boot.RightsFollow ∧
      ¬ (Machine.run (System.fdCallStep smallKernel backendOps) System.boot
        [openToRead, (0, .dup 0)]).RightsFollow := by
  refine ⟨by decide, .of_free System.boot_free, System.boot_rightsFollow, ?_⟩
  have hcopy : (Machine.run (System.fdCallStep smallKernel backendOps) System.boot
      [openToRead, (0, .dup 0)]).vfs.openedWith (0, 1) = some (vfsORdonly ||| vfsOCreat) := by
    decide +kernel
  have hright : (Machine.run (System.fdCallStep smallKernel backendOps) System.boot
      [openToRead, (0, .dup 0)]).fdRight (0, 1) = 0 := by
    decide +kernel
  generalize Machine.run (System.fdCallStep smallKernel backendOps) System.boot
    [openToRead, (0, .dup 0)] = s at hcopy hright ⊢
  intro h
  have hfollow := h.rights (0, 1)
  rw [hcopy, hright] at hfollow
  exact absurd (hfollow.1.2 (by decide)) (by decide)

end NeuroSpark
