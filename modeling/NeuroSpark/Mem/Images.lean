import NeuroSpark.Mem.UserPages

/-!
# Images of user programs

What `exec_user_image` of `usermode.c` looks at: the headers of an ELF file with the checks of
`load_elf32_image` on them, and the pages that it maps, one for the stack and those of the segments.
-/

namespace NeuroSpark

def userVaCode : BitVec 32 := 0x40000000
def userVaStackTop : BitVec 32 := 0x40002000
def execBufferSize : BitVec 32 := 4096

/-! ### The file -/

/-- An image is what lies in memory from its first byte on, and its size: an offset in the file,
added to a size, may wrap round, and then the loader reads past the end. -/
structure UserImage where
  bytes : BitVec 32 → BitVec 8
  size : BitVec 32

structure Elf32Phdr where
  pType : BitVec 32
  pOffset : BitVec 32
  pVaddr : BitVec 32
  pFilesz : BitVec 32
  pMemsz : BitVec 32
  pAlign : BitVec 32

structure Elf32Shdr where
  shType : BitVec 32
  shAddr : BitVec 32
  shOffset : BitVec 32
  shSize : BitVec 32
  shLink : BitVec 32
  shInfo : BitVec 32
  shEntsize : BitVec 32

namespace UserImage

def half (image : UserImage) (offset : BitVec 32) : BitVec 16 :=
  image.bytes (offset + 1) ++ image.bytes offset

def word (image : UserImage) (offset : BitVec 32) : BitVec 32 :=
  image.half (offset + 2) ++ image.half offset

/-- The fields of `Elf32_Ehdr`. -/
def eType (image : UserImage) : BitVec 16 := image.half 16
def eMachine (image : UserImage) : BitVec 16 := image.half 18
def eEntry (image : UserImage) : BitVec 32 := image.word 24
def ePhoff (image : UserImage) : BitVec 32 := image.word 28
def eShoff (image : UserImage) : BitVec 32 := image.word 32
def ePhentsize (image : UserImage) : BitVec 16 := image.half 42
def ePhnum (image : UserImage) : BitVec 16 := image.half 44
def eShentsize (image : UserImage) : BitVec 16 := image.half 46
def eShnum (image : UserImage) : BitVec 16 := image.half 48

def phdr (image : UserImage) (i : Nat) : Elf32Phdr :=
  let ph := image.ePhoff + BitVec.ofNat 32 i * 32
  { pType := image.word ph
    pOffset := image.word (ph + 4)
    pVaddr := image.word (ph + 8)
    pFilesz := image.word (ph + 16)
    pMemsz := image.word (ph + 20)
    pAlign := image.word (ph + 28) }

def shdr (image : UserImage) (i : Nat) : Elf32Shdr :=
  let sh := image.eShoff + BitVec.ofNat 32 i * 40
  { shType := image.word (sh + 4)
    shAddr := image.word (sh + 12)
    shOffset := image.word (sh + 16)
    shSize := image.word (sh + 20)
    shLink := image.word (sh + 24)
    shInfo := image.word (sh + 28)
    shEntsize := image.word (sh + 36) }

def phdrs (image : UserImage) : List Elf32Phdr := (List.range image.ePhnum.toNat).map image.phdr

/-- `0x7F 'E' 'L' 'F'`. -/
def isElf (image : UserImage) : Bool :=
  image.bytes 0 = 0x7F ∧ image.bytes 1 = 0x45 ∧ image.bytes 2 = 0x4C ∧ image.bytes 3 = 0x46

def etExec : BitVec 16 := 2
def etDyn : BitVec 16 := 3

/-- The checks of `load_elf32_image` on the header. -/
def headerAccepted (image : UserImage) : Bool :=
  ¬ image.size < 52 ∧ image.isElf ∧ image.bytes 4 = 1 ∧ image.eMachine = 3 ∧
    (image.eType = etExec ∨ image.eType = etDyn) ∧ image.ePhentsize = 32 ∧
    ¬ image.size < image.ePhoff + image.ePhnum.setWidth 32 * 32

end UserImage

def ptLoad : BitVec 32 := 1

/-- Only segments of type `PT_LOAD` that take memory are loaded. -/
def Elf32Phdr.loads (ph : Elf32Phdr) : Bool := ¬ (ph.pType ≠ ptLoad ∨ ph.pMemsz = 0)

/-- The checks on a segment that is to be loaded. -/
def Elf32Phdr.accepted (size loadBias : BitVec 32) (ph : Elf32Phdr) : Bool :=
  ¬ (ph.pAlign ≠ 0 ∧ ph.pAlign &&& (ph.pAlign - 1) ≠ 0) ∧
    ¬ (1 < ph.pAlign ∧ ph.pOffset &&& (ph.pAlign - 1) ≠ ph.pVaddr &&& (ph.pAlign - 1)) ∧
    ¬ ph.pVaddr + ph.pMemsz < ph.pVaddr ∧ isUserRange (ph.pVaddr + loadBias) ph.pMemsz ∧
    ¬ size < ph.pOffset + ph.pFilesz ∧ ¬ ph.pMemsz < ph.pFilesz

/-- What `dyn_low` and `dyn_high` become with one more segment. -/
def dynBounds (bounds : BitVec 32 × BitVec 32) (ph : Elf32Phdr) : BitVec 32 × BitVec 32 :=
  if ph.loads then
    (if ph.pVaddr < bounds.1 then ph.pVaddr else bounds.1,
      if bounds.2 < ph.pVaddr + ph.pMemsz then ph.pVaddr + ph.pMemsz else bounds.2)
  else bounds

/-- The distance by which the segments of a shared object are moved, which depends on the clock. -/
def UserImage.loadBias (image : UserImage) (ticks : BitVec 32) : Option (BitVec 32) :=
  if image.eType ≠ UserImage.etDyn then some 0
  else
    let bounds := image.phdrs.foldl dynBounds (0xFFFFFFFF, 0)
    if bounds.1 = 0xFFFFFFFF ∨ bounds.2 ≤ bounds.1 then none
    else
      let low := bounds.1 &&& pageMask
      let base := userVaCode + (ticks &&& 0x1F) * 0x1000
      let base := if isUserRange base (bounds.2 - low) then base else userVaCode
      some (base - low)

/-- Why loading stops. A relocation at an address outside the user half of the address space, which
nothing checks for, goes to memory of the kernel. What the kernel does after that is not followed.
-/
inductive Refusal where
  | refused
  | strays
  deriving DecidableEq

/-! ### Pages -/

/-- A page is taken, mapped as page `n` and cleared. It is not given back when there is none for the
table, and a page that was mapped there before is not either. -/
def mapZeroPage (pd : BitVec 32) (s : Paging) (n : Nat) : Except (Refusal × Paging) Paging :=
  let r := s.allocPage
  if r.2 = 0 then .error (.refused, r.1)
  else
    let m := mapUserPage r.1 pd r.2 (pageAddress n)
    if m.2 then .ok (m.1.setPage (frameOf r.2) fun _ => 0) else .error (.refused, m.1)

/-- The numbers of the pages that `map_user_range` goes through. -/
def rangePages (start size : BitVec 32) : List Nat :=
  List.range' (pageNo start) (pageNo (start + size - 1) + 1 - pageNo start)

def mapUserRange (pd : BitVec 32) (s : Paging) (start size : BitVec 32) :
    Except (Refusal × Paging) Paging :=
  if size = 0 then .error (.refused, s) else (rangePages start size).foldlM (mapZeroPage pd) s

/-- The page below the stack has to stay free. -/
def setupUserStack (pd : BitVec 32) (s : Paging) : Except (Refusal × Paging) Paging := do
  let s ← mapZeroPage pd s (pageNo (userVaStackTop - 4096))
  if resolveUserPhys s pd (userVaStackTop - 8192) ≠ 0 then .error (.refused, s) else .ok s

end NeuroSpark
