import NeuroSpark.Lib.Machine
import NeuroSpark.Modules.Load

/-!
# The calls of the module loader

`load_new_module`, `release_module_slot`, `try_resolve_pending_relocs` and the calls over them. A
call that returns `-1` stops. The functions of modules that are called have no way to the loader;
what `ns_module_init` returns comes with the call.
-/

namespace NeuroSpark.Modules

open Logged Word

/-- What the VFS says of a path: the flags and the size of the file, if it is there, and what
reading it into `g_load_buf` gives. -/
structure ModuleFile where
  stat : Option (Nat × Nat)
  readSize : Int
  bytes : Nat → UInt8

namespace ModuleFile

variable (file : ModuleFile)

/-- The file is there, can be loaded, and was read as a whole. -/
def Accepted : Prop :=
  ∃ st ∈ file.stat, ¬ (st.1 = 0 ∨ st.2 = 0 ∨ nsModuleLoadLimit < st.2) ∧
    0 < file.readSize ∧ file.readSize = st.2

instance : Decidable file.Accepted :=
  inferInstanceAs (Decidable (∃ st ∈ file.stat, ¬ (st.1 = 0 ∨ st.2 = 0 ∨ nsModuleLoadLimit < st.2) ∧
    0 < file.readSize ∧ file.readSize = st.2))

def image : ModuleImage := ⟨file.bytes, file.readSize.toNat⟩

/-- A file that is read as it is. -/
def ofBytes (l : List UInt8) : ModuleFile := ⟨some (1, l.length), l.length, fun i => l.getD i 0⟩

end ModuleFile

/-- A slot that a module is loaded into. -/
def NsLoadedObject.fresh (kind : NsModuleKind) (path : CString) : NsLoadedObject :=
  { NsLoadedObject.zero with used := true, kind := kind, refCount := 1, path := path.take 63 }

section

variable (pool : ModulePool)

def loadNewModule (path : CString) (kind : NsModuleKind) (file : ModuleFile) (s : ModuleLoader) :
    Loads (ModuleLoader × Int) :=
  if path = [] then stop s
  else
    match s.findModuleSlotByPath path kind with
    | some slot =>
      return (s.modify slot fun m => { m with refCount := m.refCount + 1 }, handleOf slot)
    | none =>
      if ¬ file.Accepted then stop s
      else
        match s.allocModuleSlot with
        | none => stop s
        | some slot => do
          tell (.cleared slot)
          let s := s.modify slot fun _ => .fresh kind path
          match ← (loadObjectFromImage pool slot file.image s).attempt with
          | .ok s => return (s, handleOf slot)
          | .error s => do
            tell (.abandoned slot (∃ i, ∃ p ∈ s.pendingRelocs i, p.targetSlot = slot))
            tell (.cleared slot)
            stop (s.modify slot fun _ => .zero)

/-- The relocations of a module no longer wait. -/
def ModuleLoader.dropPending (s : ModuleLoader) (slot : Fin 12) : ModuleLoader :=
  { s with pendingRelocs := fun i => (s.pendingRelocs i).filter fun p => p.targetSlot ≠ slot }

/-- `release_module_slot`, with whether it returned 1. -/
def releaseModuleSlot : Nat → Fin 12 → Bool → ModuleLoader → Loads (ModuleLoader × Bool)
  | 0, _, _, s => return (s, false)
  | fuel + 1, slot, runFini, s =>
    if ¬ (s.modules slot).used then return (s, false)
    else if 0 < (s.modules slot).refCount then return (s, true)
    else if s.moduleHasDependents slot then return (s, false)
    else do
      if runFini ∧ (s.modules slot).finiAddr ≠ 0 then tell (.called (s.modules slot).finiAddr)
      let s ← (s.modules slot).deps.foldlM (fun s dep =>
        if (s.modules dep).used ∧ 0 < (s.modules dep).refCount then do
          let (s, _) ← releaseModuleSlot fuel dep false
            (s.modify dep fun m => { m with refCount := m.refCount - 1 })
          return s
        else return s) s
      tell (.cleared slot)
      return ((s.dropPending slot).modify slot fun _ => .zero, true)

/-- A module in the table takes up a level of the recursion. -/
def releaseSlot : Fin 12 → Bool → ModuleLoader → Loads (ModuleLoader × Bool) :=
  releaseModuleSlot 13

/-- The word for a relocation that waited. -/
def pendingWord (p : NsPendingReloc) (symAddr : Nat) : Option Nat :=
  if p.relType = r386JmpSlot ∨ p.relType = r386GlobDat then some symAddr
  else if p.relType = r38632 then some (u32 (p.addend + symAddr))
  else if p.relType = r386Pc32 then some (sub32 (u32 (p.addend + symAddr)) p.place)
  else none

/-- The word is written, if there is one. -/
def patchPending (p : NsPendingReloc) (s : ModuleLoader) : Option Nat → Loads ModuleLoader
  | none => return s
  | some v => do
    tell (.patched p.targetSlot p.place)
    return s.poke p.place v

/-- One round of the loop, with the number of relocations that wait on. -/
def tryResolve (l : ModuleLoader × Nat) (i : Fin 192) : Loads (ModuleLoader × Nat) :=
  let (s, unresolved) := l
  match s.pendingRelocs i with
  | none => return (s, unresolved)
  | some p =>
    match s.resolveExternalSymbol p.symbol.chars with
    | none => return (s, unresolved + 1)
    | some (symAddr, owner) => do
      let s ← patchPending p s (pendingWord p symAddr)
      let s := (s.addDependency p.targetSlot owner).getD s
      return (s.setPending i none, unresolved)

def tryResolvePendingRelocs (s : ModuleLoader) : Loads (ModuleLoader × Nat) :=
  (List.finRange 192).foldlM tryResolve (s, 0)

/-- A task of the table. -/
def taskSlot (task : Int) : Option (Fin 8) := (List.finRange 8).find? fun t => (t : Int) = task

def moduleDlopenForTask (task : Int) (path : CString) (file : ModuleFile) (s : ModuleLoader) :
    Loads (ModuleLoader × Int) :=
  match taskSlot task with
  | none => stop s
  | some task => do
    match ← (loadNewModule pool path .library file (s.clearDlerrorForTask task)).attempt with
    | .error s => stop (s.setDlerrorForTask task "dlopen: load failed")
    | .ok (s, handle) =>
      match s.findModuleSlotByHandle handle with
      | none => stop (s.setDlerrorForTask task "dlopen: bad handle")
      | some slot => do
        let s := s.modify slot fun m =>
          { m with taskRefs := Function.update m.taskRefs task (m.taskRefs task + 1) }
        let (s, unresolved) ← tryResolvePendingRelocs s
        if 0 < unresolved then
          return (s.setDlerrorForTask task "dlopen: pending lazy symbols", handle)
        else return (s, handle)

/-- A reference is dropped: the count goes down, not below zero. -/
def NsLoadedObject.unref (m : NsLoadedObject) : NsLoadedObject :=
  { m with refCount := if 0 < m.refCount then m.refCount - 1 else m.refCount }

def moduleDlcloseForTask (task handle : Int) (s : ModuleLoader) : Loads (ModuleLoader × Int) :=
  match taskSlot task with
  | none => stop s
  | some task =>
    let s := s.clearDlerrorForTask task
    match s.findModuleSlotByHandle handle with
    | none => stop (s.setDlerrorForTask task "dlclose: bad handle")
    | some slot =>
      if (s.modules slot).kind ≠ .library then
        stop (s.setDlerrorForTask task "dlclose: not library")
      else if (s.modules slot).taskRefs task ≤ 0 then
        stop (s.setDlerrorForTask task "dlclose: not owned by task")
      else do
        let s := s.modify slot fun m =>
          { m with taskRefs := Function.update m.taskRefs task (m.taskRefs task - 1) }.unref
        let (s, released) ← releaseSlot slot false s
        if ¬ released then stop (s.setDlerrorForTask task "dlclose: dependency busy")
        else return (s, 0)

/-- `ns_module_init` is called once, and the module is given up when it fails. -/
def initModule (slot : Fin 12) (initRc : Int) (s : ModuleLoader) : Loads ModuleLoader :=
  if (s.modules slot).initCalled then return s
  else if (s.modules slot).initAddr = 0 then
    return s.modify slot fun m => { m with initCalled := true }
  else do
    tell (.called (s.modules slot).initAddr)
    if initRc ≠ 0 then do
      let s := s.modify slot fun m =>
        { m with
          kernelRefs := if 0 < m.kernelRefs then m.kernelRefs - 1 else m.kernelRefs }.unref
      let (s, _) ← releaseSlot slot false s
      stop (s.setDlerrorForTask s.currentTask "insmod: init failed")
    else return s.modify slot fun m => { m with initCalled := true }

def moduleInsmod (path : CString) (file : ModuleFile) (initRc : Int) (s : ModuleLoader) :
    Loads (ModuleLoader × Int) := do
  match ← (loadNewModule pool path .kernel file s).attempt with
  | .error s => stop (s.setDlerrorForTask s.currentTask "insmod: load failed")
  | .ok (s, handle) =>
    match s.findModuleSlotByHandle handle with
    | none => stop (s.setDlerrorForTask s.currentTask "insmod: bad handle")
    | some slot => do
      let s ← initModule slot initRc
        (s.modify slot fun m => { m with kernelRefs := m.kernelRefs + 1 })
      let (s, unresolved) ← tryResolvePendingRelocs s
      if 0 < unresolved then
        return (s.setDlerrorForTask s.currentTask "insmod: unresolved lazy symbols", 0)
      else return (s.clearDlerrorForTask s.currentTask, 0)

def parseU32DecLocal (text : CString) : Option Nat :=
  if text = [] ∨ ∃ c ∈ text, c < 48 ∨ 57 < c then none
  else some (text.foldl (fun v c => u32 (v * 10 + (c.toNat - 48))) 0)

/-- The module that a decimal handle or a path names. -/
def ModuleLoader.rmmodSlot (s : ModuleLoader) (pathOrHandle : CString) : Option (Fin 12) :=
  ((parseU32DecLocal pathOrHandle).bind fun v => s.findModuleSlotByHandle (i32 v)).orElse fun _ =>
    s.findModuleSlotByPath pathOrHandle .kernel

lemma ModuleLoader.used_of_rmmodSlot {s : ModuleLoader} {text : CString} {slot : Fin 12}
    (h : s.rmmodSlot text = some slot) : (s.modules slot).used = true := by
  unfold ModuleLoader.rmmodSlot at h
  cases hhandle : (parseU32DecLocal text).bind fun v => s.findModuleSlotByHandle (i32 v) with
  | some i =>
    rw [hhandle] at h
    obtain rfl : i = slot := Option.some.inj h
    obtain ⟨v, -, hv⟩ := Option.bind_eq_some_iff.1 hhandle
    exact (s.used_of_findModuleSlotByHandle hv).1
  | none =>
    rw [hhandle] at h
    exact (s.used_of_findModuleSlotByPath h).1

def moduleRmmod (pathOrHandle : CString) (s : ModuleLoader) : Loads (ModuleLoader × Int) :=
  let fail (s : ModuleLoader) (msg : String) : Loads (ModuleLoader × Int) :=
    stop (s.setDlerrorForTask s.currentTask msg)
  if pathOrHandle = [] then fail s "rmmod: bad args"
  else
    match s.rmmodSlot pathOrHandle with
    | none => fail s "rmmod: module not found"
    | some slot =>
      if (s.modules slot).kind ≠ .kernel then fail s "rmmod: module not found"
      else if (s.modules slot).kernelRefs ≤ 0 then fail s "rmmod: no kernel ref"
      else if s.moduleHasDependents slot then fail s "rmmod: dependent modules exist"
      else do
        let s := s.modify slot fun m => { m with kernelRefs := m.kernelRefs - 1 }.unref
        let (s, released) ← releaseSlot slot true s
        if ¬ released then fail s "rmmod: module still busy"
        else return (s.clearDlerrorForTask s.currentTask, 0)

end

inductive ModuleOp where
  | dlopen (task : Int) (path : CString) (file : ModuleFile)
  | dlclose (task handle : Int)
  | dlsym (handle : Int) (symbol : CString)
  | insmod (path : CString) (file : ModuleFile) (initRc : Int)
  | rmmod (pathOrHandle : CString)
  /-- Another task runs. -/
  | switch (task : Fin 8)

def moduleCall (pool : ModulePool) (s : ModuleLoader) : ModuleOp → Loads (ModuleLoader × Int)
  | .dlopen task path file => moduleDlopenForTask pool task path file s
  | .dlclose task handle => moduleDlcloseForTask task handle s
  | .dlsym handle symbol =>
    let (s, addr) := s.moduleDlsym handle symbol
    return (s, addr)
  | .insmod path file initRc => moduleInsmod pool path file initRc s
  | .rmmod pathOrHandle => moduleRmmod pathOrHandle s
  | .switch task => return ({ s with currentTask := task }, 0)

/-- The state after a call and what it returns. -/
def outcome : Except ModuleLoader (ModuleLoader × Int) → ModuleLoader × Int
  | .ok r => r
  | .error s => (s, -1)

def moduleStep (pool : ModulePool) (s : ModuleLoader) (op : ModuleOp) : ModuleLoader × Int :=
  outcome (moduleCall pool s op).result

/-- The functions of the kernel that modules can use. -/
def kernelExportNames : List CString :=
  [chars "gprint", chars "set_cmd_output", chars "vfs_open", chars "vfs_close", chars "vfs_read",
    chars "vfs_write", chars "vfs_read_file", chars "vfs_write_file", chars "vfs_stat"]

/-- The state after `module_loader_init`, in a kernel with its functions at some addresses. -/
def moduleLoaderInit (addrOf : CString → Nat) (memory : Nat → UInt8) : ModuleLoader where
  modules _ := .zero
  kernelExports := kernelExportNames.foldl (fun exports name =>
    addKernelExport exports name (addrOf name)) []
  pendingRelocs _ := none
  dlerror _ := ""
  poolCursor := 0
  memory := memory
  currentTask := 0

def lowPool : ModulePool := ⟨4096, by decide, by decide⟩

/-- A loader with nothing loaded, in a kernel whose functions are all at one address. -/
def newLoader : ModuleLoader := moduleLoaderInit (fun _ => 256) fun _ => 0

end NeuroSpark.Modules
