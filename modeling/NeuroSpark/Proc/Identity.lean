import NeuroSpark.Lib.Machine
import NeuroSpark.Proc.Posix

/-!
# Who a task is

The identity of a task is set when the task is forked or executed, by `setuid` and `setgid`, and by
`ensure_task_identity_defaults`, which many system calls run first. That function takes a task whose
break was never set for one that is new, and makes it root.

A process is *unprivileged* when neither its real nor its effective user is root.
-/

namespace NeuroSpark

open Function (update update_self)

def brkDefaultBase : Nat := 0x48000000

/-- The tasks, as far as it matters who they are. -/
structure Processes where
  posix : Posix
  terminated : Fin 8 → Bool
  brkBase : Fin 8 → Nat
  current : Fin 8
  lastExecPath : CString

/-- The system calls that begin with `ensure_task_identity_defaults` and do nothing else to
identities. -/
inductive DefaultsCall where
  | getuid
  | geteuid
  | getgid
  | getegid
  | mmap
  | brk
  | sbrk
  | alarm
  deriving DecidableEq

/-- What can happen: the scheduler selects a task, the current task makes a system call, a command
of the shell runs in the current task, or a task is ended by a signal or a fault. A command that
fails before it asks for a permission is `otherCall`. -/
inductive ProcessOp where
  | switchTo (task : Fin 8)
  | fork (spaceCloned stackAllocated : Bool)
  | defaults (call : DefaultsCall)
  | setuid (uid : Nat)
  | setgid (gid : Nat)
  | chmod (path : CString) (mode : Nat)
  | chown (path : CString) (uid gid : Nat)
  | openFile (path : CString) (flags : UInt32) (fd : Option Int)
  | unlink (path : CString)
  | close (fd : Int)
  | exit
  | kill (task : Fin 8)
  | otherCall
  | shellSetuid (uid : Nat)
  | shellSetgid (gid : Nat)
  | shellExec (path : CString) (loaded stackAllocated : Bool)
  | launch (stackAllocated : Bool)
  deriving DecidableEq

namespace Processes

def setTerminated (s : Processes) (task : Fin 8) (v : Bool) : Processes :=
  { s with terminated := Function.update s.terminated task v }

def ensureTaskIdentityDefaults (s : Processes) (task : Fin 8) : Processes :=
  if s.brkBase task = 0 then
    { s with
      posix := posixTaskInit s.posix task none
      brkBase := Function.update s.brkBase task brkDefaultBase }
  else s

def taskAllocSlot (s : Processes) : Option (Fin 8) :=
  (List.finRange 8).find? fun i => i ≠ 0 ∧ s.terminated i

/-- Without a stack the task is not created. -/
def createTask (s : Processes) (task : Fin 8) (stackAllocated : Bool) : Processes :=
  if stackAllocated then s.setTerminated task false else s

/-- `SYS_FORK` once the address space is cloned. -/
def forkInto (s : Processes) (child : Fin 8) (stackAllocated : Bool) : Processes :=
  let parent := s.current
  let s := s.createTask child stackAllocated
  let s := (s.ensureTaskIdentityDefaults parent).ensureTaskIdentityDefaults child
  { s with
    posix := posixCloneFdRights (posixTaskOnFork s.posix parent child) parent child
    brkBase := Function.update s.brkBase child (s.brkBase parent) }

/-- A new program always runs in slot 2. -/
def finalizeUserProcess (s : Processes) (stackAllocated : Bool) : Processes :=
  let s := (s.setTerminated 2 true).createTask 2 stackAllocated
  let posix := posixTaskInit s.posix 2 (some s.current)
  { s with posix := posixApplyExecCredentials posix 2 s.lastExecPath }

/-- `exec_user_program`; `loaded` says that the image could be read and loaded. -/
def execUserProgram (s : Processes) (path : CString) (loaded stackAllocated : Bool) : Processes :=
  if path = [] then s
  else
    let s := { s with lastExecPath := path.take 127 }
    if loaded then s.finalizeUserProcess stackAllocated else s

def setPosix (s : Processes) (posix : Posix) : Processes := { s with posix := posix }

/-- The access that `SYS_OPEN` asks for. -/
def openAccessMask (flags : UInt32) : Nat :=
  if flags &&& vfsOWronly ≠ 0 then posixAccWrite
  else if flags &&& vfsORdwr = vfsORdwr then posixAccRead ||| posixAccWrite
  else posixAccRead

def step (s : Processes) : ProcessOp → Processes
  | .switchTo task => { s with current := task }
  | .fork spaceCloned stackAllocated =>
    match s.taskAllocSlot with
    | none => s
    | some child => if spaceCloned then s.forkInto child stackAllocated else s
  | .defaults _ => s.ensureTaskIdentityDefaults s.current
  | .setuid uid =>
    let s := s.ensureTaskIdentityDefaults s.current
    s.setPosix (posixSetUid s.posix s.current uid).1
  | .setgid gid =>
    let s := s.ensureTaskIdentityDefaults s.current
    s.setPosix (posixSetGid s.posix s.current gid).1
  | .chmod path mode => s.setPosix (posixPathChmod s.posix s.current path mode).1
  | .chown path uid gid => s.setPosix (posixPathChown s.posix s.current path uid gid).1
  | .openFile path flags fd =>
    let r := posixCheckPathPermission s.posix s.current path (openAccessMask flags)
    match r.2, fd with
    | .ok _, some fd => s.setPosix (posixTrackFdOpen r.1 s.current fd path flags)
    | _, _ => s.setPosix r.1
  | .unlink path =>
    s.setPosix (posixCheckPathPermission s.posix s.current path posixAccWrite).1
  | .close fd => s.setPosix (posixTrackFdClose s.posix s.current fd)
  | .exit => (s.setPosix (posixClearTaskFds s.posix s.current)).setTerminated s.current true
  | .kill task => s.setTerminated task true
  | .otherCall => s
  | .shellSetuid uid => s.setPosix (posixSetUid s.posix s.current uid).1
  | .shellSetgid gid => s.setPosix (posixSetGid s.posix s.current gid).1
  | .shellExec path loaded stackAllocated =>
    let r := posixCheckPathPermission s.posix s.current path posixAccExec
    match r.2 with
    | .ok _ => (s.setPosix r.1).execUserProgram path loaded stackAllocated
    | .error _ => s.setPosix r.1
  | .launch stackAllocated => s.finalizeUserProcess stackAllocated

end Processes

/-! ### Unprivileged processes -/

/-- Neither the real nor the effective user is root. -/
def PosixIdentity.Unprivileged (x : PosixIdentity) : Prop := x.uid ≠ 0 ∧ x.euid ≠ 0

def Processes.Unprivileged (s : Processes) (task : Fin 8) : Prop :=
  (s.posix.id task).Unprivileged

/-- The slot that an operation gives to a new process. -/
def ProcessOp.newProcess (s : Processes) : ProcessOp → Option (Fin 8)
  | .fork true _ => s.taskAllocSlot
  | .shellExec path true _ =>
    if path ≠ [] ∧ (posixCheckPathPermission s.posix s.current path posixAccExec).2 = .ok 0 then
      some 2
    else none
  | .launch _ => some 2
  | _ => none

/-- The operation starts a program with the set-uid bit that is owned by root. -/
def ProcessOp.StartsSetuidRoot (s : Processes) : ProcessOp → Prop
  | .shellExec path _ _ => s.posix.SetuidRoot path
  | .launch _ => s.posix.SetuidRoot s.lastExecPath
  | _ => False

/-- The slots of the processes of `A` after an operation, and of those that they start; a program
that is to run as root is not followed. -/
def followStep (s : Processes) (o : ProcessOp) (A : Set (Fin 8)) : Set (Fin 8) :=
  {task | if o.newProcess s = some task then s.current ∈ A ∧ ¬ o.StartsSetuidRoot s
    else task ∈ A}

/-- The tasks and the processes that are followed, step by step. -/
def followedStep (x : Processes × Set (Fin 8)) (o : ProcessOp) :
    (Processes × Set (Fin 8)) × Unit :=
  ((x.1.step o, followStep x.1 o x.2), ())

/-- The operation would leave the current task as root if the task was taken for a new one. -/
def ProcessOp.RootIfNew (s : Processes) : ProcessOp → Prop
  | .defaults _ | .setgid _ => True
  | .setuid uid => uid = 0
  | .fork spaceCloned _ => spaceCloned = true ∧ s.taskAllocSlot ≠ none
  | _ => False

/-- A followed task whose break was never set makes no system call that takes it for new. -/
def NotTakenForNew (x : Processes × Set (Fin 8)) (o : ProcessOp) : Prop :=
  o.RootIfNew x.1 → x.1.current ∈ x.2 → x.1.brkBase x.1.current ≠ 0

section

variable {s : Processes} {task : Fin 8} {A : Set (Fin 8)} {path : CString} {p : Posix}

lemma posixSetUid_id_of_ne (p : Posix) {task task' : Fin 8} (uid : Nat) (hne : task' ≠ task) :
    (posixSetUid p task uid).1.id task' = p.id task' := by
  unfold posixSetUid
  dsimp only
  split_ifs <;> simp [hne]

lemma posixSetGid_id_of_ne (p : Posix) {task task' : Fin 8} (gid : Nat) (hne : task' ≠ task) :
    (posixSetGid p task gid).1.id task' = p.id task' := by
  unfold posixSetGid
  dsimp only
  split_ifs <;> simp [hne]

lemma posixSetUid_unprivileged (h : (p.id task).Unprivileged)
    (uid : Nat) : ((posixSetUid p task uid).1.id task).Unprivileged := by
  obtain ⟨huid, heuid⟩ := h
  unfold posixSetUid
  rw [if_neg heuid]
  split_ifs with hown
  · simp only [Posix.id_setId, update_self]
    refine ⟨huid, ?_⟩
    rcases hown with rfl | rfl
    · exact huid
    · exact heuid
  · exact ⟨huid, heuid⟩

lemma posixSetGid_unprivileged (h : (p.id task).Unprivileged)
    (gid : Nat) : ((posixSetGid p task gid).1.id task).Unprivileged := by
  obtain ⟨huid, heuid⟩ := h
  unfold posixSetGid
  rw [if_neg heuid]
  split_ifs with hown
  · simp only [Posix.id_setId, update_self]
    exact ⟨huid, heuid⟩
  · exact ⟨huid, heuid⟩

lemma Processes.ensure_id_of_ne {task task' : Fin 8} (hne : task' ≠ task) :
    (s.ensureTaskIdentityDefaults task).posix.id task' = s.posix.id task' := by
  unfold Processes.ensureTaskIdentityDefaults
  split_ifs
  · simp [posixTaskInit, hne]
  · rfl

@[simp] lemma Processes.current_ensure (s : Processes) (task : Fin 8) :
    (s.ensureTaskIdentityDefaults task).current = s.current := by
  unfold Processes.ensureTaskIdentityDefaults
  split_ifs <;> rfl

lemma Processes.ensure_id_of_new (h : s.brkBase task = 0) :
    (s.ensureTaskIdentityDefaults task).posix.id task = PosixIdentity.root task := by
  simp [Processes.ensureTaskIdentityDefaults, h, posixTaskInit]

lemma Processes.ensure_of_brkBase (h : s.brkBase task ≠ 0) :
    s.ensureTaskIdentityDefaults task = s := if_neg h

lemma Processes.forkInto_id {child : Fin 8} (stackAllocated : Bool)
    (hA : ∀ task ∈ A, s.Unprivileged task) (hbrk : s.current ∈ A → s.brkBase s.current ≠ 0)
    (htask : (if task = child then s.current else task) ∈ A) :
    (s.forkInto child stackAllocated).Unprivileged task := by
  set s₁ := s.createTask child stackAllocated with hs₁
  have hid₁ : s₁.posix = s.posix ∧ s₁.brkBase = s.brkBase := by
    rw [hs₁, Processes.createTask]
    split_ifs <;> exact ⟨rfl, rfl⟩
  set s₂ := s₁.ensureTaskIdentityDefaults s.current with hs₂
  set s₃ := s₂.ensureTaskIdentityDefaults child with hs₃
  have hresult : (s.forkInto child stackAllocated).posix.id task =
      if task = child then s₃.posix.id s.current else s₃.posix.id task := by
    change update s₃.posix.id child (s₃.posix.id s.current) task = _
    rw [Function.update_apply]
  have hcurrent : s.current ∈ A → s₃.posix.id s.current = s.posix.id s.current := by
    intro hun
    have hne := hbrk hun
    have h₂ : s₂ = s₁ := by
      rw [hs₂, Processes.ensure_of_brkBase]
      rwa [hid₁.2]
    by_cases hchild : s.current = child
    · rw [hs₃, h₂, ← hchild, Processes.ensure_of_brkBase (by rwa [hid₁.2]), hid₁.1]
    · rw [hs₃, Processes.ensure_id_of_ne hchild, h₂, hid₁.1]
  unfold Processes.Unprivileged
  rw [hresult]
  split_ifs at htask ⊢ with hchild
  · rw [hcurrent htask]
    exact hA _ htask
  · rcases eq_or_ne task s.current with rfl | hne
    · rw [hcurrent htask]
      exact hA _ htask
    · rw [hs₃, Processes.ensure_id_of_ne hchild, hs₂, Processes.ensure_id_of_ne hne, hid₁.1]
      exact hA _ htask

lemma Processes.forkInto_id_of_new {child : Fin 8} (stackAllocated : Bool)
    (hbrk : s.brkBase s.current = 0) (htask : task = s.current ∨ task = child) :
    ((s.forkInto child stackAllocated).posix.id task).euid = 0 := by
  set s₁ := s.createTask child stackAllocated with hs₁
  have hbrk₁ : s₁.brkBase s.current = 0 := by
    rw [hs₁, Processes.createTask]
    split_ifs <;> exact hbrk
  set s₂ := s₁.ensureTaskIdentityDefaults s.current with hs₂
  set s₃ := s₂.ensureTaskIdentityDefaults child with hs₃
  have hroot₂ : s₂.posix.id s.current = PosixIdentity.root s.current :=
    Processes.ensure_id_of_new hbrk₁
  have hbrk₂ : s₂.brkBase s.current ≠ 0 := by
    simp [hs₂, Processes.ensureTaskIdentityDefaults, hbrk₁, brkDefaultBase]
  have hroot₃ : s₃.posix.id s.current = PosixIdentity.root s.current := by
    rcases eq_or_ne s.current child with hchild | hchild
    · rw [hs₃, ← hchild, Processes.ensure_of_brkBase hbrk₂, hroot₂]
    · rw [hs₃, Processes.ensure_id_of_ne hchild, hroot₂]
  have hresult : (s.forkInto child stackAllocated).posix.id task = s₃.posix.id s.current := by
    change update s₃.posix.id child (s₃.posix.id s.current) task = _
    rw [Function.update_apply]
    rcases htask with rfl | rfl
    · split_ifs <;> rfl
    · rw [if_pos rfl]
  rw [hresult, hroot₃]
  rfl

lemma posixCheckPathPermission_ok {mask v : Nat}
    (h : (posixCheckPathPermission p task path mask).2 = .ok v) :
    v = 0 ∧ path ≠ [] := by
  unfold posixCheckPathPermission at h
  split_ifs at h with hpath
  dsimp only at h
  split at h
  · cases h
  · split_ifs at h
    cases h
    exact ⟨rfl, hpath⟩

lemma posixCheckPathPermission_extends (p : Posix) (task : Fin 8) (path : CString) (mask : Nat) :
    (posixCheckPathPermission p task path mask).1.Extends p := by
  unfold posixCheckPathPermission
  split_ifs
  · exact Posix.Extends.refl p
  · dsimp only
    split
    · exact metaGetOrCreate_extends p path
    · split_ifs <;> exact metaGetOrCreate_extends p path

lemma Processes.finalizeUserProcess_unprivileged (stackAllocated : Bool)
    (h : s.Unprivileged s.current) (hroot : ¬ s.posix.SetuidRoot s.lastExecPath) :
    (s.finalizeUserProcess stackAllocated).Unprivileged 2 := by
  set p := posixTaskInit s.posix 2 (some s.current) with hp
  have hposix : (s.finalizeUserProcess stackAllocated).posix =
      posixApplyExecCredentials p 2 s.lastExecPath := by
    unfold Processes.finalizeUserProcess Processes.createTask
    split_ifs <;> rfl
  obtain ⟨huid, heuid⟩ := euid_posixApplyExecCredentials p 2 s.lastExecPath
  unfold Processes.Unprivileged
  rw [hposix]
  refine ⟨huid ▸ h.1, ?_⟩
  rcases heuid with heuid | ⟨i, hi, hmode, heuid⟩
  · exact heuid ▸ h.2
  · rw [heuid]
    exact fun hzero => hroot ⟨i, hi, hmode, hzero⟩

lemma Processes.finalizeUserProcess_id_of_ne (stackAllocated : Bool)
    (hne : task ≠ 2) : (s.finalizeUserProcess stackAllocated).posix.id task = s.posix.id task := by
  have hposix : (s.finalizeUserProcess stackAllocated).posix =
      posixApplyExecCredentials (posixTaskInit s.posix 2 (some s.current)) 2 s.lastExecPath := by
    unfold Processes.finalizeUserProcess Processes.createTask
    split_ifs <;> rfl
  rw [hposix, id_posixApplyExecCredentials_of_ne _ _ hne]
  simp [posixTaskInit, hne]

lemma Posix.SetuidRoot.of_take {p q : Posix} (hext : p.Extends q)
    (h : p.SetuidRoot (path.take 127)) : q.SetuidRoot path := by
  obtain ⟨i, hi, hmode, hzero⟩ := h
  have hpath := metaFind_path hi
  have hfits := (p.pathMeta i).path_fits
  have hwhole : path.take 127 = path := by
    rw [hpath] at hfits
    refine List.take_of_length_le ?_
    rw [List.length_take] at hfits
    unfold posixPathMax at hfits
    omega
  obtain ⟨hi', hsame⟩ := hext.metaFind hi hmode
  rw [hwhole] at hi'
  exact ⟨i, hi', hsame ▸ hmode, hsame ▸ hzero⟩

lemma shellExec_unprivileged (hA : ∀ task ∈ A, s.Unprivileged task) (loaded stackAllocated : Bool)
    (htask : task ∈ followStep s (.shellExec path loaded stackAllocated) A) :
    (s.step (.shellExec path loaded stackAllocated)).Unprivileged task := by
  set r := posixCheckPathPermission s.posix s.current path posixAccExec with hr
  have hid : ∀ t, r.1.id t = s.posix.id t := by simp [hr]
  have hstays : task ∈ A → (s.setPosix r.1).Unprivileged task := by
    intro hmem
    unfold Processes.Unprivileged
    simp only [Processes.setPosix, hid]
    exact hA task hmem
  simp only [Processes.step]
  cases hok : r.2 with
  | error e =>
    refine hstays ?_
    cases loaded <;> simpa [followStep, ProcessOp.newProcess, ← hr, hok] using htask
  | ok v =>
    obtain ⟨rfl, hpath⟩ := posixCheckPathPermission_ok hok
    simp only [Processes.execUserProgram, if_neg hpath]
    cases loaded with
    | false => exact hstays htask
    | true =>
      simp only [followStep, ProcessOp.newProcess, ← hr, hok, hpath, ne_eq, not_false_eq_true,
        and_self, if_true, Option.some.injEq, Set.mem_ofPred_eq] at htask
      rcases eq_or_ne task 2 with rfl | hne
      · refine Processes.finalizeUserProcess_unprivileged stackAllocated ?_ fun hroot => ?_
        · unfold Processes.Unprivileged
          dsimp only [Processes.setPosix]
          rw [← hr, hid]
          exact hA _ htask.1
        · have hext : r.1.Extends s.posix := posixCheckPathPermission_extends _ _ _ _
          exact htask.2 (hroot.of_take hext)
      · rw [if_neg (Ne.symm hne)] at htask
        have := hstays htask
        unfold Processes.Unprivileged at this ⊢
        simp only [if_true]
        rw [Processes.finalizeUserProcess_id_of_ne _ hne]
        exact this

lemma setuid_unprivileged {uid : Nat} (h : s.Unprivileged s.current)
    (ho : uid = 0 → s.brkBase s.current ≠ 0) :
    (s.step (.setuid uid)).Unprivileged s.current := by
  simp only [Processes.step]
  by_cases hbrk : s.brkBase s.current = 0
  · have huid : uid ≠ 0 := fun huid => ho huid hbrk
    have hroot : (s.ensureTaskIdentityDefaults s.current).posix.id s.current =
        PosixIdentity.root s.current := Processes.ensure_id_of_new hbrk
    simp only [Processes.Unprivileged, Processes.setPosix, Processes.current_ensure,
      posixSetUid, hroot, PosixIdentity.root, if_true, Posix.id_setId, update_self]
    exact ⟨huid, huid⟩
  · rw [Processes.ensure_of_brkBase hbrk]
    exact posixSetUid_unprivileged h uid

/-- One step keeps the followed processes unprivileged. -/
lemma followStep_unprivileged {o : ProcessOp} (hA : ∀ task ∈ A, s.Unprivileged task)
    (ho : NotTakenForNew (s, A) o) :
    ∀ task ∈ followStep s o A, (s.step o).Unprivileged task := by
  intro task htask
  -- an operation that starts no process and leaves the task's identity as it is
  have hsame : o.newProcess s = none → (s.step o).posix.id task = s.posix.id task →
      (s.step o).Unprivileged task := by
    intro hnone hid
    unfold Processes.Unprivileged
    rw [hid]
    have hmem : task ∈ A := by simpa [followStep, hnone] using htask
    exact hA task hmem
  have hcurrent : o.newProcess s = none → task = s.current → s.current ∈ A := by
    rintro hnone rfl
    simpa [followStep, hnone] using htask
  cases o with
  | switchTo | otherCall | exit | kill => exact hsame rfl rfl
  | close | chmod | chown | unlink => exact hsame rfl (by simp [Processes.step, Processes.setPosix])
  | openFile path flags fd =>
    refine hsame rfl ?_
    simp only [Processes.step]
    split <;> simp [Processes.setPosix]
  | defaults call =>
    rcases eq_or_ne task s.current with hcur | hne
    · have hmem := hcurrent rfl hcur
      refine hsame rfl ?_
      rw [Processes.step, Processes.ensure_of_brkBase (ho trivial hmem)]
    · exact hsame rfl (Processes.ensure_id_of_ne hne)
  | setuid uid =>
    rcases eq_or_ne task s.current with hcur | hne
    · have hmem := hcurrent rfl hcur
      rw [hcur]
      exact setuid_unprivileged (hA _ hmem) fun huid => ho huid hmem
    · refine hsame rfl ?_
      simp only [Processes.step, Processes.setPosix, Processes.current_ensure]
      rw [posixSetUid_id_of_ne _ _ hne, Processes.ensure_id_of_ne hne]
  | setgid gid =>
    rcases eq_or_ne task s.current with hcur | hne
    · have hmem := hcurrent rfl hcur
      simp only [Processes.step]
      rw [hcur, Processes.ensure_of_brkBase (ho trivial hmem)]
      exact posixSetGid_unprivileged (hA _ hmem) gid
    · refine hsame rfl ?_
      simp only [Processes.step, Processes.setPosix, Processes.current_ensure]
      rw [posixSetGid_id_of_ne _ _ hne, Processes.ensure_id_of_ne hne]
  | shellSetuid uid =>
    rcases eq_or_ne task s.current with rfl | hne
    · have hmem := hcurrent rfl rfl
      exact posixSetUid_unprivileged (hA _ hmem) uid
    · exact hsame rfl (posixSetUid_id_of_ne _ _ hne)
  | shellSetgid gid =>
    rcases eq_or_ne task s.current with rfl | hne
    · have hmem := hcurrent rfl rfl
      exact posixSetGid_unprivileged (hA _ hmem) gid
    · exact hsame rfl (posixSetGid_id_of_ne _ _ hne)
  | fork spaceCloned stackAllocated =>
    cases hslot : s.taskAllocSlot with
    | none =>
      refine hsame ?_ (by simp [Processes.step, hslot])
      cases spaceCloned <;> simp [ProcessOp.newProcess, hslot]
    | some child =>
      cases spaceCloned with
      | false => exact hsame rfl (by simp [Processes.step, hslot])
      | true =>
        simp only [Processes.step, hslot, if_true]
        simp only [followStep, ProcessOp.newProcess, hslot, Option.some.injEq,
          Set.mem_ofPred_eq] at htask
        have hcreated : ProcessOp.RootIfNew s (.fork true stackAllocated) := ⟨rfl, by simp [hslot]⟩
        refine Processes.forkInto_id stackAllocated hA (ho hcreated) ?_
        rcases eq_or_ne task child with rfl | hne
        · rw [if_pos rfl] at htask ⊢
          exact htask.1
        · rw [if_neg hne]
          rwa [if_neg (Ne.symm hne)] at htask
  | shellExec path loaded stackAllocated =>
    exact shellExec_unprivileged hA loaded stackAllocated htask
  | launch stackAllocated =>
    rcases eq_or_ne task 2 with rfl | hne
    · exact Processes.finalizeUserProcess_unprivileged stackAllocated (hA _ htask.1) htask.2
    · unfold Processes.Unprivileged
      simp only [Processes.step]
      rw [Processes.finalizeUserProcess_id_of_ne _ hne]
      simp only [followStep, ProcessOp.newProcess, Option.some.injEq, if_neg (Ne.symm hne),
        Set.mem_ofPred_eq] at htask
      exact hA _ htask

lemma notTakenForNew_of_euid {o : ProcessOp}
    (h : ∀ task ∈ followStep s o A, ((s.step o).posix.id task).euid ≠ 0) :
    NotTakenForNew (s, A) o := by
  intro hmakes hcur hbrk
  have hroot : (s.ensureTaskIdentityDefaults s.current).posix.id s.current =
      PosixIdentity.root s.current := Processes.ensure_id_of_new hbrk
  cases o with
  | defaults call =>
    refine h s.current hcur ?_
    simp only [Processes.step, hroot, PosixIdentity.root]
  | setuid uid =>
    refine h s.current hcur ?_
    simp only [Processes.step, Processes.setPosix, Processes.current_ensure, posixSetUid, hroot,
      PosixIdentity.root, if_true, Posix.id_setId, update_self]
    exact hmakes
  | setgid gid =>
    refine h s.current hcur ?_
    simp only [Processes.step, Processes.setPosix, Processes.current_ensure, posixSetGid, hroot,
      PosixIdentity.root, if_true, Posix.id_setId, update_self]
  | fork spaceCloned stackAllocated =>
    obtain ⟨rfl, hslot⟩ := hmakes
    obtain ⟨child, hchild⟩ := Option.ne_none_iff_exists'.1 hslot
    refine h child ?_ ?_
    · simp [followStep, ProcessOp.newProcess, hchild, ProcessOp.StartsSetuidRoot, hcur]
    · simp only [Processes.step, hchild, if_true]
      exact Processes.forkInto_id_of_new stackAllocated hbrk (Or.inr rfl)
  | _ => exact hmakes

end

/-! ### Runs -/

/-- No unprivileged process, nor one that it starts, ever becomes root, but for programs with the
set-uid bit that root owns, exactly in the runs in which none of them is taken for a new task. -/
theorem unprivileged_never_root_iff {s : Processes} {A : Set (Fin 8)}
    (hA : ∀ task ∈ A, s.Unprivileged task) (os : List ProcessOp) :
    (∀ pre, pre <+: os → ∀ task ∈ (Machine.run followedStep (s, A) pre).2,
      ((Machine.run followedStep (s, A) pre).1.posix.id task).euid ≠ 0) ↔
      Machine.Runs NotTakenForNew followedStep (s, A) os := by
  let I : Processes × Set (Fin 8) → Prop := fun x => ∀ task ∈ x.2, x.1.Unprivileged task
  let P : Processes × Set (Fin 8) → Prop := fun x => ∀ task ∈ x.2, (x.1.posix.id task).euid ≠ 0
  have hstep : ∀ x o, I x → NotTakenForNew x o → I (followedStep x o).1 :=
    fun x o hx ho => followStep_unprivileged hx ho
  have hI : ∀ x, I x → P x := fun x hx task htask => (hx task htask).2
  have hexact : ∀ x o, I x → P (followedStep x o).1 → NotTakenForNew x o :=
    fun x o _ hP => notTakenForNew_of_euid hP
  exact Machine.runs_iff_forall_prefix hstep hI hexact hA os

/-- The tables as `posix_init` and the scheduler leave them. -/
def Processes.boot : Processes where
  posix :=
    { pathMeta := fun _ => ⟨false, [], 0, 0, 0o664, by decide⟩
      id := PosixIdentity.root
      fdRights := fun _ _ => 0 }
  terminated task := task = 1 ∨ task = 2
  brkBase _ := 0
  current := 0
  lastExecPath := []

/-- Task 0 as `SETUID 1000` leaves it. -/
def Processes.user : Processes := Processes.boot.step (.shellSetuid 1000)

/-- `/a.bin` -/
def programPath : CString := [47, 97, 46, 98, 105, 110]

/-- The user starts a program, which runs. -/
def execRun : List ProcessOp := [.shellExec programPath true true, .switchTo 2]

lemma Processes.user_unprivileged :
    ∀ task ∈ ({0} : Set (Fin 8)), Processes.user.Unprivileged task := by
  intro task htask
  subst htask
  exact ⟨by decide, by decide⟩

lemma Processes.two_followed : 2 ∈ (Machine.run followedStep (Processes.user, {0}) execRun).2 := by
  have hstep : 2 ∈ followStep Processes.user (.shellExec programPath true true) {0} := by
    refine ⟨rfl, ?_⟩
    rintro ⟨i, hi, -⟩
    cases hi
  simpa [execRun, followedStep, followStep, ProcessOp.newProcess] using hstep

/-- The program may set its user to the one it has. -/
theorem unprivileged_never_root_setuid :
    2 ∈ (Machine.run followedStep (Processes.user, {0}) (execRun ++ [.setuid 1000])).2 ∧
      ∀ pre, pre <+: execRun ++ [.setuid 1000] →
        ∀ task ∈ (Machine.run followedStep (Processes.user, {0}) pre).2,
          ((Machine.run followedStep (Processes.user, {0}) pre).1.posix.id task).euid ≠ 0 := by
  constructor
  · rw [Machine.run_append]
    exact Processes.two_followed
  · refine (unprivileged_never_root_iff Processes.user_unprivileged _).2 ⟨?_, ?_, ?_, trivial⟩
    · exact fun hmakes => hmakes.elim
    · exact fun hmakes => hmakes.elim
    · exact fun hzero => absurd hzero (by decide : (1000 : ℕ) ≠ 0)

/-- The program asks who it is, and is root. -/
theorem unprivileged_becomes_root :
    (∀ task ∈ ({0} : Set (Fin 8)), Processes.user.Unprivileged task) ∧
      2 ∈ (Machine.run followedStep (Processes.user, {0}) execRun).2 ∧
      ((Machine.run followedStep (Processes.user, {0}) execRun).1.posix.id 2).euid = 1000 ∧
      ¬ ∀ pre, pre <+: execRun ++ [.defaults .getuid] →
        ∀ task ∈ (Machine.run followedStep (Processes.user, {0}) pre).2,
          ((Machine.run followedStep (Processes.user, {0}) pre).1.posix.id task).euid ≠ 0 := by
  refine ⟨Processes.user_unprivileged, Processes.two_followed, by decide, fun h => ?_⟩
  have hmem : 2 ∈
      (Machine.run followedStep (Processes.user, {0}) (execRun ++ [.defaults .getuid])).2 := by
    rw [Machine.run_append]
    exact Processes.two_followed
  exact h _ List.prefix_rfl 2 hmem (by decide)

end NeuroSpark
