import Mathlib
import NeuroSpark.Modules.Image

/-!
# The table of modules

The state of `module_loader.c`: the modules in use, the exports of the kernel, the relocations that
wait for a symbol, and the pool that module memory is taken from. What the loader writes to module
memory goes to `memory`; its own tables are not part of that. The handle of a module in use is
`0x4000` plus its slot, set when the slot is taken, and is not stored again here. Counters are
integers that do not overflow.
-/

namespace NeuroSpark.Modules

open Word

def nsKernelExportsMax : Nat := 64
def nsModulePoolSize : Nat := 262144
def nsModuleLoadLimit : Nat := 65536
def nsModuleAbiMagic : Nat := 0x4E534D31
def maxExports : Nat := 64
def maxDeps : Nat := 8

/-- What is in a `char name[48]`. -/
structure SymbolName where
  chars : CString
  terminated : 0 ∉ chars
  fits : chars.length < 48

instance : DecidableEq SymbolName := fun a b =>
  decidable_of_iff (a.chars = b.chars)
    ⟨fun h => by cases a; cases b; simpa using h, congrArg SymbolName.chars⟩

/-- `text_copy` to such a field. -/
def SymbolName.copy (text : CString) : SymbolName where
  chars := (cString text).take 47
  terminated h := by simpa using List.mem_takeWhile_imp (List.mem_of_mem_take h)
  fits := by
    rw [List.length_take]
    omega

/-- An `NsExport`, or an `NsKernelExport`. -/
structure NsExport where
  name : SymbolName
  addr : Nat
  deriving DecidableEq

/-- The first export with a name. -/
def findExport (exports : List NsExport) (name : CString) : Option NsExport :=
  exports.find? fun e => e.name.chars = name

/-- An export is replaced, or added when there is room for `cap`. -/
def putExport (cap : Nat) (exports : List NsExport) (name : CString) (addr : Nat) :
    List NsExport :=
  if name = [] ∨ addr = 0 ∨ cap ≤ exports.length then exports
  else
    match exports.findIdx? fun e => e.name.chars = name with
    | some i => exports.modify i fun e => { e with addr := addr }
    | none => exports ++ [⟨SymbolName.copy name, addr⟩]

def addKernelExport : List NsExport → CString → Nat → List NsExport := putExport nsKernelExportsMax

def moduleAddExport : List NsExport → CString → Nat → List NsExport := putExport maxExports

inductive NsModuleKind where
  | library
  | kernel
  deriving DecidableEq

structure NsLoadedObject where
  used : Bool
  kind : NsModuleKind
  refCount : Int
  initCalled : Bool
  kernelRefs : Int
  imageBase : Nat
  initAddr : Nat
  finiAddr : Nat
  deps : List (Fin 12)
  taskRefs : Fin 8 → Int
  path : CString
  exports : List NsExport

/-- A slot that was cleared. -/
def NsLoadedObject.zero : NsLoadedObject where
  used := false
  kind := .library
  refCount := 0
  initCalled := false
  kernelRefs := 0
  imageBase := 0
  initAddr := 0
  finiAddr := 0
  deps := []
  taskRefs _ := 0
  path := []
  exports := []

def handleOf (slot : Fin 12) : Int := 0x4000 + slot

lemma handleOf_inj {i j : Fin 12} (h : handleOf i = handleOf j) : i = j := by
  unfold handleOf at h
  exact Fin.ext (by omega)

structure NsPendingReloc where
  targetSlot : Fin 12
  place : Nat
  relType : Nat
  addend : Nat
  symbol : SymbolName
  deriving DecidableEq

/-- Where `g_module_pool` lies. -/
structure ModulePool where
  base : Nat
  pos : 0 < base
  fits : base + nsModulePoolSize ≤ 4294967296

structure ModuleLoader where
  modules : Fin 12 → NsLoadedObject
  kernelExports : List NsExport
  pendingRelocs : Fin 192 → Option NsPendingReloc
  dlerror : Fin 8 → String
  poolCursor : Nat
  memory : Nat → UInt8
  /-- `current_task_slot`. -/
  currentTask : Fin 8

namespace ModuleLoader

variable (s : ModuleLoader)

def modify (slot : Fin 12) (f : NsLoadedObject → NsLoadedObject) : ModuleLoader :=
  { s with modules := Function.update s.modules slot (f (s.modules slot)) }

@[simp] lemma modify_self (slot : Fin 12) (f : NsLoadedObject → NsLoadedObject) :
    (s.modify slot f).modules slot = f (s.modules slot) := Function.update_self ..

lemma modify_of_ne {slot i : Fin 12} (h : i ≠ slot) (f : NsLoadedObject → NsLoadedObject) :
    (s.modify slot f).modules i = s.modules i := Function.update_of_ne h ..

def setPending (i : Fin 192) (p : Option NsPendingReloc) : ModuleLoader :=
  { s with pendingRelocs := Function.update s.pendingRelocs i p }

def setDlerrorForTask (task : Fin 8) (msg : String) : ModuleLoader :=
  { s with dlerror := Function.update s.dlerror task msg }

def clearDlerrorForTask (task : Fin 8) : ModuleLoader := s.setDlerrorForTask task ""

/-- A word of module memory is written. -/
def poke (place v : Nat) : ModuleLoader := { s with memory := storeWord s.memory place v }

def findModuleSlotByPath (path : CString) (kind : NsModuleKind) : Option (Fin 12) :=
  (List.finRange 12).find? fun i =>
    (s.modules i).used ∧ (s.modules i).kind = kind ∧ (s.modules i).path = path

def allocModuleSlot : Option (Fin 12) := (List.finRange 12).find? fun i => ¬ (s.modules i).used

def findModuleSlotByHandle (handle : Int) : Option (Fin 12) :=
  (List.finRange 12).find? fun i => (s.modules i).used ∧ handleOf i = handle

/-- What the modules in use export, in the order in which a symbol is looked up. -/
def moduleExports : List (Fin 12 × NsExport) :=
  (List.finRange 12).flatMap fun i =>
    if (s.modules i).used then (s.modules i).exports.map (i, ·) else []

/-- The address of a symbol and the module that exports it, none for the kernel. -/
def resolveExternalSymbol (name : CString) : Option (Nat × Option (Fin 12)) :=
  if name = [] then none
  else
    match findExport s.kernelExports name with
    | some e => some (e.addr, none)
    | none =>
      (s.moduleExports.find? fun e => e.2.name.chars = name).map fun e => (e.2.addr, some e.1)

variable {s} in
lemma used_of_resolve {name : CString} {addr : Nat} {owner : Fin 12}
    (h : s.resolveExternalSymbol name = some (addr, some owner)) :
    (s.modules owner).used = true ∧ (s.modules owner).exports ≠ [] := by
  unfold resolveExternalSymbol at h
  split_ifs at h
  cases hkernel : findExport s.kernelExports name with
  | some e => simp [hkernel] at h
  | none =>
    simp only [hkernel, Option.map_eq_some_iff] at h
    obtain ⟨e, hfind, he⟩ := h
    obtain ⟨i, -, hi⟩ := List.mem_flatMap.1 (List.mem_of_find?_eq_some hfind)
    split_ifs at hi with hused
    · obtain ⟨e', he', rfl⟩ := List.mem_map.1 hi
      obtain rfl : i = owner := Option.some.inj (Prod.mk.inj he).2
      exact ⟨hused, List.ne_nil_of_mem he'⟩
    · cases hi

scoped instance (m : Fin 12) (l : List (Fin 12)) : Decidable (m ∈ l) :=
  List.instDecidableMemOfLawfulBEq m l

/-- `none` when the module has no room for the dependency. A symbol of the kernel makes none. -/
def addDependency (obj : Fin 12) : Option (Fin 12) → Option ModuleLoader
  | none => some s
  | some owner =>
    if owner ∈ (s.modules obj).deps then some s
    else if maxDeps ≤ (s.modules obj).deps.length then none
    else some ((s.modify obj fun m => { m with deps := m.deps ++ [owner] }).modify owner fun m =>
      { m with refCount := m.refCount + 1 })

variable {s} in
lemma addDependency_cases {obj owner : Fin 12} {s' : ModuleLoader}
    (h : s.addDependency obj (some owner) = some s') :
    (owner ∈ (s.modules obj).deps ∧ s' = s) ∨
      (owner ∉ (s.modules obj).deps ∧ (s.modules obj).deps.length < maxDeps ∧
        s' = (s.modify obj fun m => { m with deps := m.deps ++ [owner] }).modify owner fun m =>
          { m with refCount := m.refCount + 1 }) := by
  unfold addDependency at h
  by_cases hmem : owner ∈ (s.modules obj).deps
  · simp only [if_pos hmem] at h
    exact Or.inl ⟨hmem, (Option.some.inj h).symm⟩
  by_cases hfull : maxDeps ≤ (s.modules obj).deps.length
  · simp [hmem, hfull] at h
  · simp only [if_neg hmem, if_neg hfull] at h
    exact Or.inr ⟨hmem, not_le.1 hfull, (Option.some.inj h).symm⟩

def freePending : Option (Fin 192) :=
  (List.finRange 192).find? fun i => (s.pendingRelocs i).isNone

def addPendingReloc (p : NsPendingReloc) : Option ModuleLoader :=
  s.freePending.map fun i => s.setPending i (some p)

def moduleHasDependents (slot : Fin 12) : Prop :=
  ∃ i, (s.modules i).used ∧ i ≠ slot ∧ slot ∈ (s.modules i).deps

instance (slot : Fin 12) : Decidable (s.moduleHasDependents slot) :=
  inferInstanceAs (Decidable (∃ i, (s.modules i).used ∧ i ≠ slot ∧ slot ∈ (s.modules i).deps))

lemma moduleHasDependents_modify (slot : Fin 12) (f : NsLoadedObject → NsLoadedObject) :
    (s.modify slot f).moduleHasDependents slot ↔ s.moduleHasDependents slot := by
  refine exists_congr fun i => ?_
  by_cases hi : i = slot
  · simp [hi]
  · rw [s.modify_of_ne hi]

lemma used_of_findModuleSlotByHandle {handle : Int} {slot : Fin 12}
    (h : s.findModuleSlotByHandle handle = some slot) :
    (s.modules slot).used = true ∧ handleOf slot = handle := by
  simpa using List.find?_some h

variable {s} in
lemma findModuleSlotByHandle_handleOf {slot : Fin 12} (hused : (s.modules slot).used = true) :
    s.findModuleSlotByHandle (handleOf slot) = some slot := by
  cases hfind : s.findModuleSlotByHandle (handleOf slot) with
  | none =>
    have hnot := List.find?_eq_none.1 hfind slot (List.mem_finRange slot)
    simp [hused] at hnot
  | some i => rw [handleOf_inj (s.used_of_findModuleSlotByHandle hfind).2]

lemma used_of_findModuleSlotByPath {path : CString} {kind : NsModuleKind} {slot : Fin 12}
    (h : s.findModuleSlotByPath path kind = some slot) :
    (s.modules slot).used = true ∧ (s.modules slot).kind = kind := by
  have := List.find?_some h
  simp only [decide_eq_true_eq] at this
  exact ⟨this.1, this.2.1⟩

end ModuleLoader

/-- `x & ~(align - 1)` is `x` without its bits in `align - 1`. -/
def alignUpU32 (value align : Nat) : Nat :=
  if align = 0 ∨ align = 1 then value
  else
    let x := u32 (value + align - 1)
    x - (x &&& (align - 1))

/-- The offset of some room in the pool and the cursor behind it. -/
def poolAlloc (cursor size align : Nat) : Option (Nat × Nat) :=
  let off := alignUpU32 cursor (if align = 0 then 1 else align)
  let stop := u32 (off + size)
  if stop < off ∨ nsModulePoolSize < stop then none else some (off, stop)

end NeuroSpark.Modules
