import Mathlib.Algebra.Order.Ring.Nat
import Mathlib.Data.List.TakeWhile
import NeuroSpark.Vfs.Types

/-!
# Module files

The files that `module_loader.c` loads: 32-bit ELF, of type `ET_REL` or `ET_DYN`, seen through their
section headers. Addresses and offsets are 32-bit words, and so are the sums that the loader makes
of them.
-/

namespace NeuroSpark.Modules

open Word

def byteAt (m : Nat → UInt8) (a : Nat) : Nat := (m (u32 a)).toNat

def halfAt (m : Nat → UInt8) (a : Nat) : Nat := byteAt m a + 256 * byteAt m (a + 1)

def wordAt (m : Nat → UInt8) (a : Nat) : Nat := halfAt m a + 65536 * halfAt m (a + 2)

/-- Some bytes are stored at an address. -/
def storeBytes (m : Nat → UInt8) (a length : Nat) (v : Nat → UInt8) : Nat → UInt8 := fun b =>
  if sub32 b a < length then v (sub32 b a) else m b

def storeWord (m : Nat → UInt8) (a v : Nat) : Nat → UInt8 :=
  storeBytes m a 4 fun k => UInt8.ofNat (v / 256 ^ k)

/-- The characters of a string of the source. -/
def chars (s : String) : CString := s.toList.map fun c => UInt8.ofNat c.toNat

structure Elf32Shdr where
  shType : Nat
  shFlags : Nat
  shOffset : Nat
  shSize : Nat
  shLink : Nat
  shInfo : Nat
  shAddralign : Nat
  shEntsize : Nat
  deriving DecidableEq

structure Elf32Sym where
  stName : Nat
  stValue : Nat
  stInfo : Nat
  stShndx : Nat
  deriving DecidableEq

/-- A relocation, of either kind; the addend is used in an `Elf32_Rela` only. -/
structure Elf32Rela where
  rOffset : Nat
  rInfo : Nat
  rAddend : Nat
  deriving DecidableEq

def shtSymtab : Nat := 2
def shtStrtab : Nat := 3
def shtRela : Nat := 4
def shtNobits : Nat := 8
def shtRel : Nat := 9
def shtDynsym : Nat := 11
def shnUndef : Nat := 0
def stbGlobal : Nat := 1
def stbWeak : Nat := 2
def r386None : Nat := 0
def r38632 : Nat := 1
def r386Pc32 : Nat := 2
def r386GlobDat : Nat := 6
def r386JmpSlot : Nat := 7
def r386Relative : Nat := 8
def nsModuleMaxSections : Nat := 96

namespace Elf32Shdr

/-- `SHF_ALLOC` is set and there is something to load. -/
def Loads (sec : Elf32Shdr) : Prop := sec.shFlags.testBit 1 = true ∧ sec.shSize ≠ 0

instance (sec : Elf32Shdr) : Decidable sec.Loads :=
  inferInstanceAs (Decidable (_ ∧ _))

/-- The section ends outside an image of some size, as far as the check sees it. -/
def Outside (imageSize : Nat) (sec : Elf32Shdr) : Prop :=
  imageSize < u32 (sec.shOffset + sec.shSize)

instance (imageSize : Nat) (sec : Elf32Shdr) : Decidable (sec.Outside imageSize) :=
  inferInstanceAs (Decidable (_ < _))

/-- A symbol table, of either kind. -/
def IsSymbols (sec : Elf32Shdr) : Prop := sec.shType = shtSymtab ∨ sec.shType = shtDynsym

instance (sec : Elf32Shdr) : Decidable sec.IsSymbols :=
  inferInstanceAs (Decidable (_ ∨ _))

def IsRel (sec : Elf32Shdr) : Prop := sec.shType = shtRel ∧ sec.shEntsize = 8

instance (sec : Elf32Shdr) : Decidable sec.IsRel :=
  inferInstanceAs (Decidable (_ ∧ _))

def IsRela (sec : Elf32Shdr) : Prop := sec.shType = shtRela ∧ sec.shEntsize = 12

instance (sec : Elf32Shdr) : Decidable sec.IsRela :=
  inferInstanceAs (Decidable (_ ∧ _))

/-- The number of symbols in a table. -/
def symCount (symSec : Elf32Shdr) : Nat := symSec.shSize / 16

end Elf32Shdr

namespace Elf32Sym

/-- `ELF32_ST_BIND`. -/
def bind (sym : Elf32Sym) : Nat := sym.stInfo / 16

def IsExported (sym : Elf32Sym) : Prop := sym.bind = stbGlobal ∨ sym.bind = stbWeak

instance (sym : Elf32Sym) : Decidable sym.IsExported :=
  inferInstanceAs (Decidable (_ ∨ _))

end Elf32Sym

/-- `ELF32_R_SYM`. -/
def Elf32Rela.symIdx (rel : Elf32Rela) : Nat := rel.rInfo / 256

/-- `ELF32_R_TYPE`. -/
def Elf32Rela.relType (rel : Elf32Rela) : Nat := rel.rInfo % 256

/-- An image is what lies in memory from the first byte of `g_load_buf` on, and its size: what the
loader reads past the end is there too. -/
structure ModuleImage where
  bytes : Nat → UInt8
  size : Nat

namespace ModuleImage

variable (image : ModuleImage)

/-- The fields of `Elf32_Ehdr`. -/
def eIdent : List Nat := (List.range 5).map (byteAt image.bytes)
def eType : Nat := halfAt image.bytes 16
def eMachine : Nat := halfAt image.bytes 18
def eShoff : Nat := wordAt image.bytes 32
def eShentsize : Nat := halfAt image.bytes 46
def eShnum : Nat := halfAt image.bytes 48

def shdr (i : Nat) : Elf32Shdr :=
  let sh := image.eShoff + 40 * i
  { shType := wordAt image.bytes (sh + 4)
    shFlags := wordAt image.bytes (sh + 8)
    shOffset := wordAt image.bytes (sh + 16)
    shSize := wordAt image.bytes (sh + 20)
    shLink := wordAt image.bytes (sh + 24)
    shInfo := wordAt image.bytes (sh + 28)
    shAddralign := wordAt image.bytes (sh + 32)
    shEntsize := wordAt image.bytes (sh + 36) }

def sym (symSec : Elf32Shdr) (i : Nat) : Elf32Sym :=
  let st := symSec.shOffset + 16 * i
  { stName := wordAt image.bytes st
    stValue := wordAt image.bytes (st + 4)
    stInfo := byteAt image.bytes (st + 12)
    stShndx := halfAt image.bytes (st + 14) }

def rel (relSec : Elf32Shdr) (r : Nat) : Elf32Rela :=
  let entry := relSec.shOffset + relSec.shEntsize * r
  { rOffset := wordAt image.bytes entry
    rInfo := wordAt image.bytes (entry + 4)
    rAddend := wordAt image.bytes (entry + 8) }

/-- The text at an offset, as far as the loader looks at it: it is compared with names shorter than
48 characters, and 47 characters of it are copied. -/
def text (offset : Nat) : CString :=
  cString ((List.range 48).map fun k => image.bytes (u32 (offset + k)))

def name (strSec : Elf32Shdr) (sym : Elf32Sym) : CString :=
  image.text (strSec.shOffset + sym.stName)

/-- The checks of the ELF header. -/
def HeaderAccepted : Prop :=
  52 ≤ image.size ∧ image.eIdent = [0x7F, 0x45, 0x4C, 0x46, 1] ∧ image.eMachine = 3 ∧
    (image.eType = 1 ∨ image.eType = 3) ∧ image.eShentsize = 40 ∧ image.eShnum ≠ 0 ∧
    image.eShnum ≤ nsModuleMaxSections ∧ u32 (image.eShoff + 40 * image.eShnum) ≤ image.size

instance : Decidable image.HeaderAccepted :=
  inferInstanceAs (Decidable (_ ∧ _))

lemma text_terminated (offset : Nat) : 0 ∉ image.text offset := by
  intro h
  simpa using List.mem_takeWhile_imp h

end ModuleImage

def le16 (n : Nat) : List UInt8 := [UInt8.ofNat n, UInt8.ofNat (n / 256)]

def le32 (n : Nat) : List UInt8 := le16 n ++ le16 (n / 65536)

def Elf32Shdr.encode (sec : Elf32Shdr) : List UInt8 :=
  le32 0 ++ le32 sec.shType ++ le32 sec.shFlags ++ le32 0 ++ le32 sec.shOffset ++
    le32 sec.shSize ++ le32 sec.shLink ++ le32 sec.shInfo ++ le32 sec.shAddralign ++
    le32 sec.shEntsize

def Elf32Sym.encode (sym : Elf32Sym) : List UInt8 :=
  le32 sym.stName ++ le32 sym.stValue ++ le32 0 ++ [UInt8.ofNat sym.stInfo, 0] ++
    le16 sym.stShndx

/-- A file of type `ET_REL`: the header, some data from byte 52 on, and the section headers. -/
def objectBytes (data : List UInt8) (sections : List Elf32Shdr) : List UInt8 :=
  [0x7F, 0x45, 0x4C, 0x46, 1] ++ List.replicate 11 0 ++ le16 1 ++ le16 3 ++ le32 1 ++ le32 0 ++
    le32 0 ++ le32 (52 + data.length) ++ le32 0 ++ le16 52 ++ le16 0 ++ le16 0 ++ le16 40 ++
    le16 sections.length ++ le16 0 ++ data ++ sections.flatMap Elf32Shdr.encode

def nullSection : Elf32Shdr := ⟨0, 0, 0, 0, 0, 0, 0, 0⟩

/-- The data of a file with four bytes to load, at 52, the name `foo`, at 56, and a symbol of this
name in the second entry of a symbol table, at 61. -/
def fooData (stShndx : Nat) : List UInt8 :=
  [0, 0, 0, 0] ++ [0, 0x66, 0x6F, 0x6F, 0] ++ Elf32Sym.encode ⟨0, 0, 0, 0⟩ ++
    Elf32Sym.encode ⟨1, 2, 16, stShndx⟩

def fooSections (symtabFlags : Nat) : List Elf32Shdr :=
  [nullSection, ⟨1, 2, 52, 4, 0, 0, 4, 0⟩, ⟨3, 0, 56, 5, 0, 0, 1, 0⟩,
    ⟨2, symtabFlags, 61, 32, 2, 1, 4, 16⟩]

/-- The second byte of the loaded section is `foo`. -/
def definesFoo (symtabFlags : Nat) : List UInt8 := objectBytes (fooData 1) (fooSections symtabFlags)

/-- Relocations, of the types and at the offsets given, put `foo` into the loaded section. -/
def usesFoo (rels : List (Nat × Nat)) : List UInt8 :=
  objectBytes (fooData 0 ++ rels.flatMap fun rel => le32 rel.2 ++ le32 (256 + rel.1))
    (fooSections 0 ++ [⟨9, 0, 93, 8 * rels.length, 3, 1, 4, 8⟩])

end NeuroSpark.Modules
