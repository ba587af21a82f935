import NeuroSpark.Lib.Logged
import NeuroSpark.Mem.Images
import NeuroSpark.Mem.ResultCalls

/-!
# What the loader reads and writes

`load_elf32_image` once more, with the bytes that go into the pages and with a log of what it does:
each access to the image and to user memory, and each thing that it comes to in the file. A header
is read as a whole, where the source reads its fields one at a time.
-/

namespace NeuroSpark

/-- What the loader does. Accesses are `read`, of some bytes of the image, and `write`, to the page
of a user address in the memory given. The others say what the accesses after them are for. -/
inductive LoaderEvent where
  | read (offset : BitVec 32) (length : Nat)
  | write (s : Paging) (userVa : BitVec 32)
  /-- A part of the file whose end was compared with the size of the file is used from its first
  byte on. -/
  | extent (offset size : BitVec 32)
  /-- Some bytes are used that belong to such a part. -/
  | item (partOffset partSize offset : BitVec 32) (length : Nat)
  /-- A symbol is looked up by the name at an offset. -/
  | name (offset : BitVec 32)
  /-- The word at an address is relocated. -/
  | place (userVa : BitVec 32)

/-- A symbol of the kernel or of a module. -/
structure ModuleExport where
  name : List (BitVec 8)
  addr : BitVec 32
  terminated : 0 ∉ name

/-- A step of the loader goes on, or stops with the memory as it is. -/
abbrev Loads (α : Type) := Logged LoaderEvent (Refusal × Paging) α

namespace Loader

open Logged

/-- A byte of physical memory is written. -/
def setPhysByte (s : Paging) (phys : BitVec 32) (v : BitVec 8) : Paging :=
  s.setWord (frameOf phys) (wordIndex phys)
    (setByteOfWord (s.memory (frameOf phys) (wordIndex phys)) (phys.toNat % 4) v)

def physByte (s : Paging) (phys : BitVec 32) : BitVec 8 :=
  byteOfWord (s.memory (frameOf phys) (wordIndex phys)) (phys.toNat % 4)

def physWord (s : Paging) (phys : BitVec 32) : BitVec 32 :=
  physByte s (phys + 3) ++ physByte s (phys + 2) ++ physByte s (phys + 1) ++ physByte s phys

def setPhysWord (s : Paging) (phys v : BitVec 32) : Paging :=
  (List.range 4).foldl (fun s i => setPhysByte s (phys + BitVec.ofNat 32 i) (byteOfWord v i)) s

/-- One byte of `copy_to_user_space`, which looks an address up for each page. -/
def copyByte (image : UserImage) (pd userVa src : BitVec 32) (s : Paging) (i : Nat) :
    Loads Paging :=
  let va := userVa + BitVec.ofNat 32 i
  let phys := resolveUserPhys s pd va
  if phys = 0 then stop (.refused, s)
  else do
    tell (.read (src + BitVec.ofNat 32 i) 1)
    tell (.write s va)
    return setPhysByte s phys (image.bytes (src + BitVec.ofNat 32 i))

def copyToUserSpace (image : UserImage) (pd userVa src size : BitVec 32) (s : Paging) :
    Loads Paging :=
  (List.range size.toNat).foldlM (copyByte image pd userVa src) s

def mapZeroPage (pd : BitVec 32) (s : Paging) (n : Nat) : Loads Paging :=
  match NeuroSpark.mapZeroPage pd s n with
  | .error e => stop e
  | .ok s => do
    tell (.write s (pageAddress n))
    return s

def mapUserRange (pd : BitVec 32) (s : Paging) (start size : BitVec 32) : Loads Paging :=
  if size = 0 then stop (.refused, s) else (rangePages start size).foldlM (mapZeroPage pd) s

def readUserU32 (pd userVa : BitVec 32) (s : Paging) : Loads (BitVec 32) :=
  let phys := resolveUserPhys s pd userVa
  if phys = 0 then stop (.refused, s)
  else if 4092 < phys &&& 0xFFF then stop (.refused, s)
  else return physWord s phys

/-- At an address outside the user half the mappings of the kernel are followed, and nothing is
known of the memory after the write. -/
def writeUserU32 (pd userVa value : BitVec 32) (s : Paging) : Loads Paging :=
  let phys := resolveUserPhys s pd userVa
  if phys = 0 then stop (.refused, s)
  else if 4092 < phys &&& 0xFFF then stop (.refused, s)
  else do
    tell (.place userVa)
    tell (.write s userVa)
    if userVa < userVaddrMin ∨ userVaddrMax < userVa then stop (.strays, s)
    else return setPhysWord s phys value

section

variable (image : UserImage)

def readPhdr (i : Nat) : Loads Elf32Phdr := do
  tell (.read (image.ePhoff + BitVec.ofNat 32 i * 32) 32)
  return image.phdr i

/-- All but the first word, which is the name of the section. -/
def readShdr (i : Nat) : Loads Elf32Shdr := do
  tell (.read (image.eShoff + 4 + BitVec.ofNat 32 i * 40) 36)
  return image.shdr i

/-- Bytes that belong to a section. -/
def readItem (sec : Elf32Shdr) (offset : BitVec 32) (length : Nat) : Loads Unit := do
  tell (.item sec.shOffset sec.shSize offset length)
  tell (.read offset length)

/-- `str_eq_local` on a name that is given and the one at an offset. -/
def strEqLocal : List (BitVec 8) → BitVec 32 → Loads Bool
  | [], offset => do
    tell (.read offset 1)
    return image.bytes offset = 0
  | a :: name, offset => do
    tell (.read offset 1)
    if image.bytes offset = 0 then return false
    else if a ≠ image.bytes offset then return false
    else strEqLocal name (offset + 1)

def findExport (offset : BitVec 32) : List ModuleExport → Loads (Option (BitVec 32))
  | [] => return none
  | e :: exports => do
    if ← strEqLocal image e.name offset then return some e.addr
    else findExport offset exports

/-- `resolve_external_symbol` for the name at an offset, with the exports in the order of the
search. -/
def resolveExternalSymbol (exports : List ModuleExport) (offset : BitVec 32) :
    Loads (Option (BitVec 32)) := do
  tell (.read offset 1)
  if image.bytes offset = 0 then return none else findExport image offset exports

variable (exports : List ModuleExport) (pd loadBias : BitVec 32)

/-- The value of the symbol with a given index. -/
def symbolValue (sym str : Elf32Shdr) (symIdx : BitVec 32) (s : Paging) : Loads (BitVec 32) := do
  let entry := sym.shOffset + symIdx * 16
  readItem sym (entry + 14) 2
  if image.half (entry + 14) = 0 then do
    readItem sym entry 4
    let stName := image.word entry
    if str.shSize ≤ stName then stop (.refused, s)
    else do
      tell (.item str.shOffset str.shSize (str.shOffset + stName) 1)
      tell (.name (str.shOffset + stName))
      match ← resolveExternalSymbol image exports (str.shOffset + stName) with
      | none => stop (.refused, s)
      | some addr => return addr
  else do
    readItem sym (entry + 4) 4
    return image.word (entry + 4) + loadBias

/-- The branches on the type of a relocation. -/
def relocateWord (relType place addend symValue : BitVec 32) (s : Paging) : Loads Paging :=
  if relType = 0 then return s
  else if relType = 1 then writeUserU32 pd place (addend + symValue) s
  else if relType = 2 then writeUserU32 pd place (addend + symValue - place) s
  else if relType = 6 ∨ relType = 7 then writeUserU32 pd place symValue s
  else if relType = 8 then writeUserU32 pd place (loadBias + addend) s
  else stop (.refused, s)

/-- The addend of a relocation is in its entry or at its place. -/
def readAddend (isRela : Bool) (entry place : BitVec 32) (s : Paging) : Loads (BitVec 32) :=
  if isRela then return image.word (entry + 8) else readUserU32 pd place s

/-- One round of the inner loop of `apply_elf_relocations`. -/
def relocateEntry (rel target sym str : Elf32Shdr) (s : Paging) (r : Nat) : Loads Paging := do
  let entry := rel.shOffset + BitVec.ofNat 32 r * rel.shEntsize
  let isRela : Bool := rel.shType = 4
  readItem rel entry (if isRela then 12 else 8)
  let rOffset := image.word entry
  let rInfo := image.word (entry + 4)
  let symIdx := rInfo >>> 8
  if target.shAddr + rOffset < target.shAddr then stop (.refused, s)
  else do
    let place := target.shAddr + loadBias + rOffset
    let addend ← readAddend image pd isRela entry place s
    if sym.shSize / 16 ≤ symIdx then stop (.refused, s)
    else do
      let symValue ← symbolValue image exports loadBias sym str symIdx s
      relocateWord pd loadBias (rInfo &&& 0xFF) place addend symValue s

/-- One round of the outer loop. -/
def relocateSection (s : Paging) (i : Nat) : Loads Paging := do
  let shnum := image.eShnum.setWidth 32
  let rel ← readShdr image i
  if rel.shType = 0 ∨ rel.shSize = 0 then return s
  else if rel.shType = 9 ∧ rel.shEntsize = 8 ∨ rel.shType = 4 ∧ rel.shEntsize = 12 then
    if shnum ≤ rel.shInfo ∨ shnum ≤ rel.shLink then stop (.refused, s)
    else if image.size < rel.shOffset + rel.shSize then stop (.refused, s)
    else do
      let target ← readShdr image rel.shInfo.toNat
      let sym ← readShdr image rel.shLink.toNat
      if sym.shType ≠ 2 ∨ sym.shEntsize ≠ 16 then stop (.refused, s)
      else if shnum ≤ sym.shLink then stop (.refused, s)
      else do
        let str ← readShdr image sym.shLink.toNat
        if str.shType ≠ 3 then stop (.refused, s)
        else if image.size < sym.shOffset + sym.shSize ∨ image.size < str.shOffset + str.shSize then
          stop (.refused, s)
        else
          (List.range (rel.shSize / rel.shEntsize).toNat).foldlM
            (relocateEntry image exports pd loadBias rel target sym str) s
  else return s

def applyElfRelocations (s : Paging) : Loads Paging :=
  let shnum := image.eShnum.setWidth 32
  if image.eShoff = 0 ∨ image.eShnum = 0 ∨ image.eShentsize ≠ 40 then return s
  else if image.size < image.eShoff + shnum * 40 then stop (.refused, s)
  else do
    tell (.extent (image.eShoff + 4) (shnum * 40 - 4))
    (List.range image.eShnum.toNat).foldlM (relocateSection image exports pd loadBias) s

end

/-- One round of the loop over the segments. -/
def loadSegment (image : UserImage) (pd loadBias : BitVec 32) (s : Paging) (i : Nat) :
    Loads Paging := do
  let ph ← readPhdr image i
  if ¬ ph.loads then return s
  else if ¬ ph.accepted image.size loadBias then stop (.refused, s)
  else do
    let s ← mapUserRange pd s (ph.pVaddr + loadBias) ph.pMemsz
    tell (.extent ph.pOffset ph.pFilesz)
    copyToUserSpace image pd (ph.pVaddr + loadBias) ph.pOffset ph.pFilesz s

/-- The headers are gone through once more for the bounds of a shared object. -/
def readBounds (image : UserImage) : Loads Unit :=
  if image.eType = UserImage.etDyn then (List.range image.ePhnum.toNat).forM fun i => do
    let _ ← readPhdr image i
  else return ()

/-- `load_elf32_image` after the checks of the header. -/
def loadSegments (image : UserImage) (ticks : BitVec 32) (exports : List ModuleExport)
    (pd : BitVec 32) (s : Paging) : Loads Paging := do
  readBounds image
  match image.loadBias ticks with
  | none => stop (.refused, s)
  | some loadBias => do
    let s ← (List.range image.ePhnum.toNat).foldlM (loadSegment image pd loadBias) s
    let s ← applyElfRelocations image exports pd loadBias s
    let entry := image.eEntry + loadBias
    if ¬ isUserRange entry 1 then stop (.refused, s)
    else if resolveUserPhys s pd entry = 0 then stop (.refused, s)
    else return s

def loadElf32Image (image : UserImage) (ticks : BitVec 32) (exports : List ModuleExport)
    (pd : BitVec 32) (s : Paging) : Loads Paging :=
  if image.size < 52 then stop (.refused, s)
  else do
    tell (.read 0 52)
    if ¬ image.headerAccepted then stop (.refused, s)
    else do
      tell (.extent image.ePhoff (image.ePhnum.setWidth 32 * 32))
      loadSegments image ticks exports pd s

end Loader

end NeuroSpark
