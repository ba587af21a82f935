import NeuroSpark.Lib.Logged
import NeuroSpark.Modules.Model

/-!
# Loading a module

`load_object_from_image` of `module_loader.c` in its four parts: the sections are placed in the
pool, the relocations are made, the symbols are exported, and the entry points looked up. It either
goes on or gives up with the state as it is then; what was done before is not undone.
-/

namespace NeuroSpark.Modules

open Logged Word

inductive ModuleEvent where
  /-- Some bytes of a part of the image are read. -/
  | read (partOffset partSize offset length : Nat)
  /-- A name in a part of the image is compared with others. -/
  | lookup (partOffset partSize offset : Nat) (names : List SymbolName)
  /-- A name is copied to a field of 48 characters. -/
  | copied (partOffset partSize offset : Nat)
  /-- A section gets room in the pool, with the cursor as it is, and is filled. -/
  | placed (slot : Fin 12) (cursor size align addr : Nat)
  /-- A word at an offset in a section is read or written. -/
  | word (slot : Fin 12) (secAddr secSize rOffset : Nat)
  /-- The word at the address of `ns_module_abi` is read. The sections and the values of the symbols
  with this name are given. -/
  | abi (slot : Fin 12) (addr : Nat) (defs : List (Elf32Shdr × Nat))
  /-- A word is written for a relocation that waited. -/
  | patched (slot : Fin 12) (place : Nat)
  /-- A slot is cleared. -/
  | cleared (slot : Fin 12)
  /-- A module could not be loaded. Some of its relocations may wait for a symbol. -/
  | abandoned (slot : Fin 12) (waiting : Bool)
  /-- A function of a module is called. -/
  | called (addr : Nat)

/-- A step of the loader goes on, or gives up with the state as it is. -/
abbrev Loads (α : Type) := Logged ModuleEvent ModuleLoader α

/-- Local variables of `load_object_from_image`. -/
structure SectionTable where
  secAddrs : Nat → Nat
  symtabIdx : Option Nat
  dynsymIdx : Option Nat

def SectionTable.empty : SectionTable := ⟨fun _ => 0, none, none⟩

/-- The first table of each kind is remembered. -/
def SectionTable.place (t : SectionTable) (i shType addr : Nat) : SectionTable where
  secAddrs := Function.update t.secAddrs i addr
  symtabIdx := if shType = shtSymtab ∧ t.symtabIdx = none then some i else t.symtabIdx
  dynsymIdx := if shType = shtDynsym ∧ t.dynsymIdx = none then some i else t.dynsymIdx

/-- The table whose symbols are exported. -/
def SectionTable.exportIdx (t : SectionTable) : Option Nat :=
  if t.symtabIdx = none then t.dynsymIdx else t.symtabIdx

section

variable (pool : ModulePool) (slot : Fin 12) (image : ModuleImage)

def readPart (part : Elf32Shdr) (offset length : Nat) : Loads Unit :=
  tell (.read part.shOffset part.shSize (u32 offset) length)

/-- All but the first word, which is the name of the section. -/
def readShdr (i : Nat) : Loads Elf32Shdr := do
  tell (.read image.eShoff (40 * image.eShnum) (u32 (image.eShoff + 40 * i + 4)) 36)
  return image.shdr i

def readSym (symSec : Elf32Shdr) (i : Nat) : Loads Elf32Sym := do
  readPart symSec (symSec.shOffset + 16 * i) 16
  return image.sym symSec i

def readRel (relSec : Elf32Shdr) (r : Nat) : Loads Elf32Rela := do
  readPart relSec (relSec.shOffset + relSec.shEntsize * r) relSec.shEntsize
  return image.rel relSec r

def sectionAlign (sec : Elf32Shdr) : Nat := if sec.shAddralign = 0 then 4 else sec.shAddralign

/-- What goes into the memory of a section. -/
def ModuleImage.contents (sec : Elf32Shdr) : Nat → UInt8 := fun k =>
  if sec.shType = shtNobits then 0 else image.bytes (u32 (sec.shOffset + k))

def ModuleLoader.placeSection (s : ModuleLoader) (sec : Elf32Shdr) (addr cursor : Nat) :
    ModuleLoader :=
  { s with
    poolCursor := cursor
    memory := storeBytes s.memory addr sec.shSize (image.contents sec)
    modules := Function.update s.modules slot
      { s.modules slot with
        imageBase :=
          if (s.modules slot).imageBase = 0 ∨ addr < (s.modules slot).imageBase then addr
          else (s.modules slot).imageBase } }

/-- One round of the loop over the sections. -/
def loadSection (l : ModuleLoader × SectionTable) (i : Nat) :
    Loads (ModuleLoader × SectionTable) := do
  let (s, t) := l
  let sec ← readShdr image i
  if sec.Outside image.size ∧ sec.shType ≠ shtNobits then stop s
  else if ¬ sec.Loads then return (s, t)
  else
    match poolAlloc s.poolCursor sec.shSize (sectionAlign sec) with
    | none => stop s
    | some (off, cursor) => do
      let addr := pool.base + off
      tell (.placed slot s.poolCursor sec.shSize (sectionAlign sec) addr)
      if sec.shType ≠ shtNobits then readPart sec sec.shOffset sec.shSize
      return (s.placeSection slot image sec addr cursor, t.place i sec.shType addr)

def computeSymbolAddr (sym : Elf32Sym) (secAddrs : Nat → Nat) (shnum : Nat) : Option Nat :=
  if sym.stShndx = shnUndef ∨ shnum ≤ sym.stShndx then none
  else if secAddrs sym.stShndx = 0 then none
  else some (u32 (secAddrs sym.stShndx + sym.stValue))

def lazyTypeSupported (relType : Nat) : Bool := relType = r386JmpSlot ∨ relType = r386GlobDat

/-- The word that a relocation puts at its place, for the types that do and are supported. -/
def relocatedWord (relType place addend symAddr imageBase : Nat) : Option Nat :=
  if relType = r38632 then some (u32 (addend + symAddr))
  else if relType = r386Pc32 then some (sub32 (u32 (addend + symAddr)) place)
  else if relType = r386GlobDat ∨ relType = r386JmpSlot then some symAddr
  else if relType = r386Relative then some (u32 (imageBase + addend))
  else none

section

variable (t : SectionTable) (relSec symSec strSec target : Elf32Shdr) (rel : Elf32Rela)

/-- A relocation uses the word at its place. -/
def useWord : Loads Unit :=
  tell (.word slot (t.secAddrs relSec.shInfo) target.shSize rel.rOffset)

def relocPlace : Nat := u32 (t.secAddrs relSec.shInfo + rel.rOffset)

/-- The addend is in the relocation or at its place. -/
def readAddend (s : ModuleLoader) : Loads Nat :=
  if relSec.IsRela then return rel.rAddend
  else do
    useWord slot t relSec target rel
    return wordAt s.memory (relocPlace t relSec rel)

/-- The branches on the type of a relocation. -/
def applyRelocation (addend symAddr : Nat) (s : ModuleLoader) : Loads ModuleLoader :=
  if rel.relType = r386None then return s
  else
    let place := relocPlace t relSec rel
    match relocatedWord rel.relType place addend symAddr (s.modules slot).imageBase with
    | none => stop s
    | some v => do
      useWord slot t relSec target rel
      return s.poke place v

/-- A relocation with a symbol that the image does not define. -/
def relocateExternal (sym : Elf32Sym) (addend : Nat) (s : ModuleLoader) : Loads ModuleLoader :=
  if strSec.shSize ≤ sym.stName then stop s
  else do
    let offset := u32 (strSec.shOffset + sym.stName)
    let name := image.name strSec sym
    let place := relocPlace t relSec rel
    tell (.lookup strSec.shOffset strSec.shSize offset
      ((s.kernelExports ++ s.moduleExports.map Prod.snd).map NsExport.name))
    match s.resolveExternalSymbol name with
    | none =>
      if lazyTypeSupported rel.relType then
        match s.addPendingReloc ⟨slot, place, rel.relType, addend, .copy name⟩ with
        | none => stop s
        | some s => do
          tell (.copied strSec.shOffset strSec.shSize offset)
          useWord slot t relSec target rel
          return s.poke place 0
      else stop s
    | some (symAddr, owner) =>
      match s.addDependency slot owner with
      | none => stop s
      | some s => applyRelocation slot t relSec target rel addend symAddr s

/-- A relocation with a symbol that the image defines. -/
def relocateLocal (sym : Elf32Sym) (addend : Nat) (s : ModuleLoader) : Loads ModuleLoader :=
  match computeSymbolAddr sym t.secAddrs image.eShnum with
  | none => stop s
  | some symAddr => applyRelocation slot t relSec target rel addend symAddr s

end

/-- One round of the loop over the relocations of a section. -/
def relocateEntry (t : SectionTable) (relSec symSec strSec : Elf32Shdr) (s : ModuleLoader)
    (r : Nat) : Loads ModuleLoader := do
  let rel ← readRel image relSec r
  if symSec.symCount ≤ rel.symIdx then stop s
  else do
    let target ← readShdr image relSec.shInfo
    if target.shSize < u32 (rel.rOffset + 4) then stop s
    else do
      let addend ← readAddend slot t relSec target rel s
      let sym ← readSym image symSec rel.symIdx
      if sym.stShndx = shnUndef then
        relocateExternal slot image t relSec strSec target rel sym addend s
      else relocateLocal slot image t relSec target rel sym addend s

/-- One round of the loop over the sections with relocations. -/
def relocateSection (t : SectionTable) (s : ModuleLoader) (i : Nat) : Loads ModuleLoader := do
  let relSec ← readShdr image i
  if relSec.IsRel ∨ relSec.IsRela then
    if image.eShnum ≤ relSec.shInfo ∨ image.eShnum ≤ relSec.shLink then stop s
    else if t.secAddrs relSec.shInfo = 0 then return s
    else do
      let symSec ← readShdr image relSec.shLink
      if ¬ symSec.IsSymbols ∨ symSec.shEntsize ≠ 16 ∨ image.eShnum ≤ symSec.shLink then stop s
      else do
        let strSec ← readShdr image symSec.shLink
        if strSec.shType ≠ shtStrtab then stop s
        else if symSec.Outside image.size ∨ strSec.Outside image.size ∨
            relSec.Outside image.size then stop s
        else
          (List.range (relSec.shSize / relSec.shEntsize)).foldlM
            (relocateEntry slot image t relSec symSec strSec) s
  else return s

/-- The name and the address of a symbol that is exported. -/
def ModuleImage.exported (t : SectionTable) (symSec strSec : Elf32Shdr) (k : Nat) :
    Option (CString × Nat) :=
  let sym := image.sym symSec k
  if strSec.shSize ≤ sym.stName ∨ ¬ sym.IsExported ∨ image.name strSec sym = [] then none
  else (computeSymbolAddr sym t.secAddrs image.eShnum).map fun addr => (image.name strSec sym, addr)

/-- One round of the loop over the symbols. -/
def exportSymbol (t : SectionTable) (symSec strSec : Elf32Shdr) (exports : List NsExport)
    (k : Nat) : Loads (List NsExport) := do
  let sym ← readSym image symSec k
  if strSec.shSize ≤ sym.stName then return exports
  else
    match computeSymbolAddr sym t.secAddrs image.eShnum with
    | none => return exports
    | some addr =>
      if sym.IsExported then do
        let offset := u32 (strSec.shOffset + sym.stName)
        let name := image.name strSec sym
        let exports' := moduleAddExport exports name addr
        tell (.lookup strSec.shOffset strSec.shSize offset
          (if addr = 0 ∨ maxExports ≤ exports.length then [] else exports.map NsExport.name))
        if exports'.length ≠ exports.length then
          tell (.copied strSec.shOffset strSec.shSize offset)
        return exports'
      else return exports

def exportSymbols (t : SectionTable) (s : ModuleLoader) : Loads ModuleLoader :=
  match t.exportIdx with
  | none => return s
  | some i => do
    let symSec ← readShdr image i
    if image.eShnum ≤ symSec.shLink then stop s
    else do
      let strSec ← readShdr image symSec.shLink
      if strSec.shType ≠ shtStrtab then stop s
      else do
        let exports ← (List.range (symSec.symCount)).foldlM
          (exportSymbol image t symSec strSec) (s.modules slot).exports
        return s.modify slot fun m => { m with exports := exports }

def ModuleLoader.moduleDlsym (s : ModuleLoader) (handle : Int) (symbol : CString) :
    ModuleLoader × Nat :=
  match s.findModuleSlotByHandle handle with
  | none => (s.setDlerrorForTask s.currentTask "dlsym: bad args", 0)
  | some i =>
    if symbol = [] then (s.setDlerrorForTask s.currentTask "dlsym: bad args", 0)
    else
      match findExport (s.modules i).exports symbol with
      | some e => (s.clearDlerrorForTask s.currentTask, e.addr)
      | none => (s.setDlerrorForTask s.currentTask "dlsym: symbol not found", 0)

def nsModuleInit : CString := chars "ns_module_init"
def nsModuleFini : CString := chars "ns_module_fini"
def nsModuleAbi : CString := chars "ns_module_abi"

/-- The sections and the values of the exported symbols with a name. -/
def symbolDefs (t : SectionTable) (name : CString) : List (Elf32Shdr × Nat) :=
  match t.exportIdx with
  | none => []
  | some i =>
    let symSec := image.shdr i
    let defs := (List.range symSec.symCount).filter fun k =>
      (image.exported t symSec (image.shdr symSec.shLink) k).any fun e => e.1 = name
    defs.map fun k => (image.shdr (image.sym symSec k).stShndx, (image.sym symSec k).stValue)

def ModuleLoader.withEntryPoints (s : ModuleLoader) : ModuleLoader :=
  let init := s.moduleDlsym (handleOf slot) nsModuleInit
  let s := init.1.modify slot fun m => { m with initAddr := init.2 }
  let fini := s.moduleDlsym (handleOf slot) nsModuleFini
  fini.1.modify slot fun m => { m with finiAddr := fini.2 }

/-- The version of a kernel module is looked at, when it has one. -/
def checkAbi (t : SectionTable) (s : ModuleLoader) : Loads ModuleLoader :=
  let (s, abiPtr) := s.moduleDlsym (handleOf slot) nsModuleAbi
  if abiPtr = 0 then return s
  else do
    tell (.abi slot abiPtr (symbolDefs image t nsModuleAbi))
    if wordAt s.memory abiPtr ≠ nsModuleAbiMagic then stop s else return s

def findEntryPoints (t : SectionTable) (s : ModuleLoader) : Loads ModuleLoader :=
  let s := s.withEntryPoints slot
  if (s.modules slot).kind = .kernel then checkAbi slot image t s else return s

def loadObjectFromImage (s : ModuleLoader) : Loads ModuleLoader :=
  if image.size < 52 then stop s
  else do
    tell (.read 0 52 0 52)
    if ¬ image.HeaderAccepted then stop s
    else do
      let (s, t) ← (List.range image.eShnum).foldlM (loadSection pool slot image)
        (s.modify slot fun m => { m with imageBase := 0 }, SectionTable.empty)
      let s ← (List.range image.eShnum).foldlM (relocateSection slot image t) s
      let s ← exportSymbols slot image t s
      findEntryPoints slot image t s

end

end NeuroSpark.Modules
