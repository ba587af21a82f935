import NeuroSpark.Ext2.Effects
import NeuroSpark.Ext2.Mount
import NeuroSpark.Lib.FirstFit

/-!
# The bitmap allocators of ext2

Blocks and inodes are numbered through the groups and marked in the bitmaps that the group
descriptors name. Both allocators take the least number that is not marked, and freeing it again
gives the disk back as it was, if no bitmap shares its sectors with another one or with a
descriptor.
-/

namespace NeuroSpark

open Function (update update_self update_of_ne)
open Word

variable {s t : Ext2} {b x : Nat}

lemma blockToLba_apart {m : Ext2MountState} (h : blockToLba m x ≠ blockToLba m b) :
    blockToLba m x ≠ u32 (blockToLba m b + 1) ∧ u32 (blockToLba m x + 1) ≠ blockToLba m b ∧
      u32 (blockToLba m x + 1) ≠ u32 (blockToLba m b + 1) := by
  unfold blockToLba u32 at *
  omega

lemma u32_succ_ne (n : Nat) : u32 (n + 1) ≠ n := by
  unfold u32
  omega

lemma writeBlock_sectors (hs : s.dev.Healthy) (b : Nat) (buf : Ext2Block) :
    (writeBlock s b buf).dev.sectors = update (update s.dev.sectors
      (blockToLba s.mount b) (lowerHalf buf)) (u32 (blockToLba s.mount b + 1)) (upperHalf buf) := by
  simp only [writeBlock]
  rw [(hs.write _ _).sectors_write, hs.sectors_write]

lemma blockAt_congr_lba (h : blockToLba s.mount x = blockToLba s.mount b) :
    s.blockAt x = s.blockAt b := by
  rw [Ext2.blockAt, Ext2.blockAt, h]

lemma blockAt_writeBlock_self (hs : s.dev.Healthy) {b : Nat} (buf : Ext2Block) :
    (writeBlock s b buf).blockAt b = buf := by
  rw [Ext2.blockAt, writeBlock_mount, writeBlock_sectors hs, update_self,
    update_of_ne (u32_succ_ne _).symm, update_self, joinSectors_halves]

lemma blockAt_writeBlock_of_ne (hs : s.dev.Healthy) (buf : Ext2Block)
    (h : blockToLba s.mount x ≠ blockToLba s.mount b) :
    (writeBlock s b buf).blockAt x = s.blockAt x := by
  obtain ⟨h₁, h₂, h₃⟩ := blockToLba_apart h
  rw [Ext2.blockAt, writeBlock_mount, writeBlock_sectors hs, update_of_ne h₁,
    update_of_ne h, update_of_ne h₃, update_of_ne h₂, Ext2.blockAt]

lemma Device.Healthy.ext {d d' : Device} (h : d.Healthy) (h' : d'.Healthy)
    (hsect : d.sectors = d'.sectors) : d = d' := by
  have hback : d.backend = d'.backend := h.backend.trans h'.backend.symm
  have hread : d.readFault = d'.readFault := funext fun l => (h.reads l).trans (h'.reads l).symm
  have hwrite : d.writeFault = d'.writeFault := funext fun l => (h.writes l).trans (h'.writes l).symm
  cases d
  cases d'
  simp only [Device.mk.injEq]
  exact ⟨hback, hsect, hread, hwrite⟩

lemma writeBlock_writeBlock_back (hs : s.dev.Healthy) (b : Nat) (buf : Ext2Block) :
    writeBlock (writeBlock s b buf) b (s.blockAt b) = s := by
  have hdev : (writeBlock (writeBlock s b buf) b (s.blockAt b)).dev = s.dev := by
    apply (writeBlock_healthy (writeBlock_healthy hs b buf) b _).ext hs
    rw [writeBlock_sectors (writeBlock_healthy hs _ _), writeBlock_mount, writeBlock_sectors hs]
    funext lba
    by_cases h₁ : lba = u32 (blockToLba s.mount b + 1)
    · subst h₁
      rw [update_self, Ext2.blockAt, upperHalf_joinSectors]
    · rw [update_of_ne h₁]
      by_cases h₀ : lba = blockToLba s.mount b
      · subst h₀
        rw [update_self, Ext2.blockAt, lowerHalf_joinSectors]
      · rw [update_of_ne h₀, update_of_ne h₁, update_of_ne h₀]
  have hframe : writeBlock (writeBlock s b buf) b (s.blockAt b) =
      { s with dev := (writeBlock (writeBlock s b buf) b (s.blockAt b)).dev } := rfl
  rw [hframe, hdev]

lemma Ext2Block.ext_bits {b c : Ext2Block} (h : ∀ j < 8192, bitTest b j = bitTest c j) : b = c := by
  apply Bytes.ext_get
  intro k hk
  apply UInt8.toNat_inj.mp
  apply Nat.eq_of_testBit_eq
  intro p
  by_cases hp : p < 8
  · have hbit := h (8 * k + p) (by omega)
    rw [bitTest_eq_testBit, bitTest_eq_testBit, show (8 * k + p) / 8 = k by omega,
      show (8 * k + p) % 8 = p by omega] at hbit
    exact hbit
  · have hlt : ∀ x : UInt8, x.toNat < 2 ^ p := by
      intro x
      calc x.toNat < 2 ^ 8 := x.toNat_lt
        _ ≤ 2 ^ p := Nat.pow_le_pow_right (by decide) (by omega)
    rw [Nat.testBit_lt_two_pow (hlt _), Nat.testBit_lt_two_pow (hlt _)]

lemma bitSet_bitSet_back {bitmap : Ext2Block} {i : Nat} (hi : i < 8192)
    (h : bitTest bitmap i = false) : bitSet (bitSet bitmap i true) i false = bitmap := by
  apply Ext2Block.ext_bits
  intro j _
  rw [bitTest_bitSet _ hi, bitTest_bitSet _ hi]
  split_ifs with hj
  · rw [hj, h]
  · rfl

/-! ### The marks -/

inductive BitmapKind where
  | block
  | inode
  deriving DecidableEq

def Ext2GroupDesc.bitmap (gd : Ext2GroupDesc) : BitmapKind → Nat
  | .block => gd.blockBitmap
  | .inode => gd.inodeBitmap

namespace Ext2MountState

/-- The first number of a kind. -/
def first (m : Ext2MountState) : BitmapKind → Nat
  | .block => m.firstDataBlock
  | .inode => 1

/-- The number after the last one. -/
def limit (m : Ext2MountState) : BitmapKind → Nat
  | .block => m.totalBlocks
  | .inode => m.totalInodes + 1

def perGroup (m : Ext2MountState) : BitmapKind → Nat
  | .block => m.blocksPerGroup
  | .inode => m.inodesPerGroup

/-- The numbers that the allocator of a kind gives out. -/
def InRange (m : Ext2MountState) (kind : BitmapKind) (n : Nat) : Prop :=
  m.first kind ≤ n ∧ n < m.limit kind

instance (m : Ext2MountState) (kind : BitmapKind) (n : Nat) : Decidable (m.InRange kind n) :=
  inferInstanceAs (Decidable (_ ∧ _))

def groupOf (m : Ext2MountState) (kind : BitmapKind) (n : Nat) : Nat :=
  (n - m.first kind) / m.perGroup kind

def bitOf (m : Ext2MountState) (kind : BitmapKind) (n : Nat) : Nat :=
  (n - m.first kind) % m.perGroup kind

end Ext2MountState

/-- The block that holds a bitmap of group `k`. -/
def Ext2.bitmapBlock (s : Ext2) (kind : BitmapKind) (k : Nat) : Nat := (s.descAt k).bitmap kind

/-- The number is marked used. -/
def Ext2.marked (s : Ext2) (kind : BitmapKind) (n : Nat) : Bool :=
  bitTest (s.blockAt (s.bitmapBlock kind (s.mount.groupOf kind n))) (s.mount.bitOf kind n)

def Ext2.setMark (s : Ext2) (kind : BitmapKind) (n : Nat) (v : Bool) : Ext2 :=
  writeBlock s (s.bitmapBlock kind (s.mount.groupOf kind n))
    (bitSet (s.blockAt (s.bitmapBlock kind (s.mount.groupOf kind n))) (s.mount.bitOf kind n) v)

/-- What the mount state promises the allocators. -/
structure Ext2.SoundGroups (s : Ext2) : Prop where
  healthy : s.dev.Healthy
  mounted : s.mount.Mounted
  blocksPerGroup : 0 < s.mount.blocksPerGroup ∧ s.mount.blocksPerGroup ≤ 8192
  inodesPerGroup : 0 < s.mount.inodesPerGroup ∧ s.mount.inodesPerGroup ≤ 8192
  firstDataBlock : s.mount.firstDataBlock ≤ s.mount.totalBlocks
  totalBlocks : s.mount.totalBlocks < 2147483648
  totalInodes : s.mount.totalInodes < 2147483648

/-- The bitmap blocks are different. -/
def Ext2.BitmapsDistinct (s : Ext2) : Prop :=
  ∀ kind kind' k k', k < s.mount.groupDescCount → k' < s.mount.groupDescCount →
    s.bitmapBlock kind k = s.bitmapBlock kind' k' → kind = kind' ∧ k = k'

/-- The bitmaps lie in different sectors, and none of them in those of a descriptor. -/
structure Ext2.BitmapsApart (s : Ext2) : Prop where
  distinct : ∀ kind kind' k k', k < s.mount.groupDescCount → k' < s.mount.groupDescCount →
    blockToLba s.mount (s.bitmapBlock kind k) = blockToLba s.mount (s.bitmapBlock kind' k') →
      kind = kind' ∧ k = k'
  desc : ∀ kind k k', k < s.mount.groupDescCount → k' < s.mount.groupDescCount →
    blockToLba s.mount (s.mount.groupDescBlock + k' / 32) ≠
      blockToLba s.mount (s.bitmapBlock kind k)

/-- Every inode number lies in a group, and the first number of each group is a 32-bit word. -/
def Ext2MountState.InodesCovered (m : Ext2MountState) : Prop :=
  m.totalInodes ≤ m.groupDescCount * m.inodesPerGroup ∧
    (m.groupDescCount - 1) * m.inodesPerGroup + 1 < 4294967296

/-- `t` is `s` with one more bit set, in the block `b`. -/
structure Ext2.SetsBit (s t : Ext2) (b i : Nat) : Prop where
  mount : t.mount = s.mount
  handles : t.handles = s.handles
  stack : t.stack = s.stack
  other : ∀ lba, lba ≠ blockToLba s.mount b → lba ≠ u32 (blockToLba s.mount b + 1) →
    t.dev.sectors lba = s.dev.sectors lba
  clear : bitTest (s.blockAt b) i = false
  bits : ∀ j, bitTest (t.blockAt b) j = if j = i then true else bitTest (s.blockAt b) j

/-- The law of an allocator: it takes the least number that is not marked and marks that one only,
or leaves the disk alone when all are marked; freeing the number again undoes it. -/
structure AllocatorLaw (kind : BitmapKind) (alloc : Ext2 → Ext2 × Option Nat)
    (free : Ext2 → Nat → Ext2) (s : Ext2) : Prop where
  fails_iff : (alloc s).2 = none ↔ ∀ n, s.mount.InRange kind n → s.marked kind n = true
  unchanged : (alloc s).2 = none → (alloc s).1 = s
  least : ∀ n, (alloc s).2 = some n →
    IsLeast (FirstFit.freeSet (s.mount.first kind) (s.mount.limit kind) (s.marked kind)) n
  setsBit : ∀ n, (alloc s).2 = some n → s.SetsBit (alloc s).1
    (s.bitmapBlock kind (s.mount.groupOf kind n)) (s.mount.bitOf kind n)
  marks : ∀ n, (alloc s).2 = some n → ∀ kind' x, s.mount.InRange kind' x →
    s.mount.groupOf kind' x < s.mount.groupDescCount →
    (alloc s).1.marked kind' x = if kind' = kind ∧ x = n then true else s.marked kind' x
  free : ∀ n, (alloc s).2 = some n → free (alloc s).1 n = s

/-! ### The scan -/

/-- The number that an allocator finds in the given groups. -/
def Ext2.firstUnmarked (s : Ext2) (kind : BitmapKind) : List Nat → Option Nat
  | [] => none
  | g :: groups =>
    match FirstFit.freeSlot (s.mount.first kind) (s.mount.limit kind) (s.mount.perGroup kind)
      (s.marked kind) g with
    | some i => some (s.mount.first kind + g * s.mount.perGroup kind + i)
    | none => s.firstUnmarked kind groups

/-- What an allocator does that finds the number `n`. -/
def Ext2.take (s : Ext2) (kind : BitmapKind) : Option Nat → Ext2 × Option Nat
  | some n => (s.setMark kind n true, some n)
  | none => (s, none)

lemma slot_group (m : Ext2MountState) (kind : BitmapKind) {g i : Nat} (hi : i < m.perGroup kind) :
    m.groupOf kind (m.first kind + g * m.perGroup kind + i) = g ∧
      m.bitOf kind (m.first kind + g * m.perGroup kind + i) = i := by
  have hsub : m.first kind + g * m.perGroup kind + i - m.first kind = g * m.perGroup kind + i := by
    omega
  rw [Ext2MountState.groupOf, Ext2MountState.bitOf, hsub]
  exact group_bit hi

lemma firstFreeBit_eq_freeSlot (s : Ext2) (kind : BitmapKind) {g : Nat}
    (hbase : s.mount.first kind + g * s.mount.perGroup kind < 4294967296)
    (hlimit : s.mount.limit kind < 4294967296) {inRange : Nat → Bool}
    (hrange : ∀ i, inRange i = true ↔
      u32 (s.mount.first kind + g * s.mount.perGroup kind + i) < s.mount.limit kind) :
    firstFreeBit (s.blockAt (s.bitmapBlock kind g)) (s.mount.perGroup kind) inRange =
      FirstFit.freeSlot (s.mount.first kind) (s.mount.limit kind) (s.mount.perGroup kind)
        (s.marked kind) g := by
  have hfun : inRange = fun i => decide
      (u32 (s.mount.first kind + g * s.mount.perGroup kind + i) < s.mount.limit kind) := by
    funext i
    rw [Bool.eq_iff_iff, hrange, decide_eq_true_eq]
  rw [firstFreeBit, hfun, FirstFit.takeWhile_range_u32 hbase hlimit, FirstFit.freeSlot]
  apply FirstFit.find?_congr
  intro i hi
  obtain ⟨hgroup, hbit⟩ := slot_group s.mount kind (show i < s.mount.perGroup kind by
    have := List.mem_range.mp hi
    omega)
  rw [Ext2.marked, hgroup, hbit]

lemma take_slot {kind : BitmapKind} {g i : Nat} (hlimit : s.mount.limit kind < 4294967296)
    (hslot : FirstFit.freeSlot (s.mount.first kind) (s.mount.limit kind) (s.mount.perGroup kind)
      (s.marked kind) g = some i) :
    s.take kind (some (s.mount.first kind + g * s.mount.perGroup kind + i)) =
      (writeBlock s (s.bitmapBlock kind g) (bitSet (s.blockAt (s.bitmapBlock kind g)) i true),
        some (u32 (s.mount.first kind + g * s.mount.perGroup kind + i))) := by
  obtain ⟨hi, hlt⟩ := FirstFit.mem_of_freeSlot hslot
  obtain ⟨hgroup, hbit⟩ := slot_group s.mount kind (g := g) hi
  rw [u32_of_lt (hlt.trans hlimit), Ext2.take, Ext2.setMark, hgroup, hbit]

lemma firstUnmarked_range' (kind : BitmapKind) (k : Nat) {g : Nat}
    (h : FirstFit.UsedBefore (s.mount.first kind) (s.mount.limit kind) (s.mount.perGroup kind)
      (s.marked kind) g) :
    (∃ n, s.firstUnmarked kind (List.range' g k) = some n ∧
      IsLeast (FirstFit.freeSet (s.mount.first kind) (s.mount.limit kind) (s.marked kind)) n) ∨
    (s.firstUnmarked kind (List.range' g k) = none ∧
      FirstFit.UsedBefore (s.mount.first kind) (s.mount.limit kind) (s.mount.perGroup kind)
        (s.marked kind) (g + k)) := by
  induction k generalizing g with
  | zero => exact Or.inr ⟨rfl, h⟩
  | succ k ih =>
    rw [List.range'_succ, Ext2.firstUnmarked]
    cases hslot : FirstFit.freeSlot (s.mount.first kind) (s.mount.limit kind)
        (s.mount.perGroup kind) (s.marked kind) g with
    | some i => exact Or.inl ⟨_, rfl, (h.isLeast hslot).2⟩
    | none =>
      have hrest := ih (h.succ hslot)
      rwa [Nat.add_assoc, Nat.add_comm 1 k] at hrest

lemma groupOf_lt {kind : BitmapKind} {n : Nat} (hn : s.mount.InRange kind n)
    (hcover : s.mount.limit kind ≤
      s.mount.first kind + s.mount.groupDescCount * s.mount.perGroup kind) :
    s.mount.groupOf kind n < s.mount.groupDescCount := by
  apply Nat.div_lt_of_lt_mul
  rw [Nat.mul_comm]
  have := hn.1
  have := hn.2
  omega

section

variable (hs : s.SoundGroups)
include hs

lemma Ext2.SoundGroups.readGroupDesc_eq {k : Nat} (hk : k < s.mount.groupDescCount) :
    readGroupDesc s k = some (s.descAt k) :=
  hs.mounted.readGroupDesc hs.healthy (hk.trans hs.mounted.groupDescCount_lt)

lemma Ext2.SoundGroups.groupDescCount : s.mount.groupDescCount =
    (s.mount.totalBlocks + s.mount.blocksPerGroup - 1) / s.mount.blocksPerGroup := by
  have hle := hs.blocksPerGroup.2
  have hlt := hs.totalBlocks
  exact hs.mounted.groupDescCount hs.blocksPerGroup.1 (by omega)

lemma Ext2.SoundGroups.limit_lt (kind : BitmapKind) : s.mount.limit kind < 4294967296 := by
  have hblocks := hs.totalBlocks
  have hinodes := hs.totalInodes
  cases kind
  · exact hblocks.trans (by decide)
  · simp only [Ext2MountState.limit]
    omega

lemma Ext2.SoundGroups.perGroup (kind : BitmapKind) :
    0 < s.mount.perGroup kind ∧ s.mount.perGroup kind ≤ 8192 := by
  cases kind
  · exact hs.blocksPerGroup
  · exact hs.inodesPerGroup

lemma Ext2.SoundGroups.bitOf_lt (kind : BitmapKind) (n : Nat) : s.mount.bitOf kind n < 8192 :=
  (Nat.mod_lt _ (hs.perGroup kind).1).trans_le (hs.perGroup kind).2

lemma Ext2.SoundGroups.mul_lt_totalBlocks {g : Nat} (hg : g < s.mount.groupDescCount) :
    g * s.mount.blocksPerGroup < s.mount.totalBlocks := by
  have hpos := hs.blocksPerGroup.1
  have hdiv := Nat.div_mul_le_self (s.mount.totalBlocks + s.mount.blocksPerGroup - 1)
    s.mount.blocksPerGroup
  rw [← hs.groupDescCount] at hdiv
  have hmul := Nat.mul_le_mul_right s.mount.blocksPerGroup (Nat.succ_le_of_lt hg)
  rw [Nat.succ_mul] at hmul
  omega

lemma Ext2.SoundGroups.block_base_lt {g : Nat} (hg : g < s.mount.groupDescCount) :
    s.mount.first .block + g * s.mount.perGroup .block < 4294967296 := by
  have hmul := hs.mul_lt_totalBlocks hg
  have hfirst := hs.firstDataBlock
  have hlt := hs.totalBlocks
  simp only [Ext2MountState.first, Ext2MountState.perGroup]
  omega

omit hs in
lemma Ext2MountState.InodesCovered.inode_base_lt (hc : s.mount.InodesCovered) {g : Nat}
    (hg : g < s.mount.groupDescCount) :
    s.mount.first .inode + g * s.mount.perGroup .inode < 4294967296 := by
  have hmul := Nat.mul_le_mul_right s.mount.inodesPerGroup (Nat.le_sub_one_of_lt hg)
  have hlt := hc.2
  simp only [Ext2MountState.first, Ext2MountState.perGroup]
  omega

lemma allocBlockIn_eq {groups : List Nat} (hg : ∀ g ∈ groups, g < s.mount.groupDescCount) :
    allocBlockIn s groups = s.take .block (s.firstUnmarked .block groups) := by
  induction groups with
  | nil => rfl
  | cons g groups ih =>
    have hlt := hg g (List.mem_cons_self ..)
    have hsum : ∀ i, g * s.mount.blocksPerGroup + i + s.mount.firstDataBlock =
        s.mount.first .block + g * s.mount.perGroup .block + i := by
      simp only [Ext2MountState.first, Ext2MountState.perGroup]
      omega
    have hscan := firstFreeBit_eq_freeSlot s .block (hs.block_base_lt hlt) (hs.limit_lt .block)
      (fun i => decide_eq_true_iff)
    simp only [allocBlockIn, hs.readGroupDesc_eq hlt, readBlock_eq hs.healthy, hsum]
    rw [Ext2.firstUnmarked]
    split
    · rename_i bit hbit
      have hslot := hscan.symm.trans hbit
      rw [hslot, take_slot (hs.limit_lt .block) hslot]
      rfl
    · rename_i hbit
      rw [hscan.symm.trans hbit]
      exact ih fun g' hg' => hg g' (List.mem_cons_of_mem _ hg')

lemma allocInodeIn_eq (hc : s.mount.InodesCovered) {groups : List Nat}
    (hg : ∀ g ∈ groups, g < s.mount.groupDescCount) :
    allocInodeIn s groups = s.take .inode (s.firstUnmarked .inode groups) := by
  induction groups with
  | nil => rfl
  | cons g groups ih =>
    have hlt := hg g (List.mem_cons_self ..)
    have hsum : ∀ i, g * s.mount.inodesPerGroup + i + 1 =
        s.mount.first .inode + g * s.mount.perGroup .inode + i := by
      simp only [Ext2MountState.first, Ext2MountState.perGroup]
      omega
    have hscan := firstFreeBit_eq_freeSlot s .inode (hc.inode_base_lt hlt) (hs.limit_lt .inode)
      (fun i => decide_eq_true_iff.trans Nat.lt_succ_iff.symm)
    simp only [allocInodeIn, hs.readGroupDesc_eq hlt, readBlock_eq hs.healthy, hsum]
    rw [Ext2.firstUnmarked]
    split
    · rename_i bit hbit
      have hslot := hscan.symm.trans hbit
      rw [hslot, take_slot (hs.limit_lt .inode) hslot]
      rfl
    · rename_i hbit
      rw [hscan.symm.trans hbit]
      exact ih fun g' hg' => hg g' (List.mem_cons_of_mem _ hg')

/-! ### One mark -/

lemma Ext2.SoundGroups.block_cover : s.mount.limit .block ≤
    s.mount.first .block + s.mount.groupDescCount * s.mount.perGroup .block := by
  have hpos := hs.blocksPerGroup.1
  have hdiv := Nat.div_add_mod (s.mount.totalBlocks + s.mount.blocksPerGroup - 1)
    s.mount.blocksPerGroup
  have hmod := Nat.mod_lt (s.mount.totalBlocks + s.mount.blocksPerGroup - 1) hpos
  rw [← hs.groupDescCount, Nat.mul_comm] at hdiv
  simp only [Ext2MountState.limit, Ext2MountState.first, Ext2MountState.perGroup]
  omega

omit hs in
lemma Ext2MountState.InodesCovered.inode_cover (hc : s.mount.InodesCovered) :
    s.mount.limit .inode ≤
      s.mount.first .inode + s.mount.groupDescCount * s.mount.perGroup .inode := by
  have := hc.1
  simp only [Ext2MountState.limit, Ext2MountState.first, Ext2MountState.perGroup]
  omega

lemma Ext2.SoundGroups.setMark (kind : BitmapKind) (n : Nat) (v : Bool) :
    (s.setMark kind n v).SoundGroups :=
  ⟨writeBlock_healthy hs.healthy _ _, hs.mounted, hs.blocksPerGroup, hs.inodesPerGroup,
    hs.firstDataBlock, hs.totalBlocks, hs.totalInodes⟩

lemma freeBlock_eq {n : Nat} (hn : s.mount.InRange .block n) :
    freeBlock s n = s.setMark .block n false := by
  have hlt : n < s.mount.totalBlocks := hn.2
  have hlt' := hs.totalBlocks
  have hrel : sub32 n s.mount.firstDataBlock = n - s.mount.firstDataBlock :=
    sub32_of_le hn.1 (by omega)
  have hgroup := groupOf_lt hn hs.block_cover
  have hguard : ¬ s.mount.groupDescCount ≤
      (n - s.mount.firstDataBlock) / s.mount.blocksPerGroup := Nat.not_le.mpr hgroup
  have hdesc : readGroupDesc s ((n - s.mount.firstDataBlock) / s.mount.blocksPerGroup) = some _ :=
    hs.readGroupDesc_eq hgroup
  simp only [freeBlock, hrel, if_neg hguard, hdesc, readBlock_eq hs.healthy]
  rfl

lemma freeInode_eq {n : Nat} (hn : s.mount.InRange .inode n)
    (hgroup : s.mount.groupOf .inode n < s.mount.groupDescCount) :
    freeInode s n = s.setMark .inode n false := by
  have hvalid : ValidInode s.mount n := ⟨hn.1, Nat.lt_succ_iff.mp hn.2⟩
  have hdesc : readGroupDesc s ((n - 1) / s.mount.inodesPerGroup) = some _ :=
    hs.readGroupDesc_eq hgroup
  simp only [freeInode, inodeGroupAndOffset_of_valid hvalid, hdesc, readBlock_eq hs.healthy]
  rfl

lemma setsBit_setMark {kind : BitmapKind} {n : Nat} (hfree : s.marked kind n = false) :
    s.SetsBit (s.setMark kind n true) (s.bitmapBlock kind (s.mount.groupOf kind n))
      (s.mount.bitOf kind n) where
  mount := rfl
  handles := rfl
  stack := rfl
  other lba h₀ h₁ := by
    rw [Ext2.setMark, writeBlock_sectors hs.healthy, update_of_ne h₁,
      update_of_ne h₀]
  clear := hfree
  bits j := by
    rw [Ext2.setMark, blockAt_writeBlock_self hs.healthy, bitTest_bitSet _ (hs.bitOf_lt kind n)]

variable (hb : s.BitmapsApart)
include hb

variable {kind : BitmapKind}

lemma descAt_setMark {n k : Nat} (v : Bool) (hn : s.mount.groupOf kind n < s.mount.groupDescCount)
    (hk : k < s.mount.groupDescCount) :
    (s.setMark kind n v).descAt k = s.descAt k := by
  have hsame := blockAt_writeBlock_of_ne hs.healthy
    (bitSet (s.blockAt (s.bitmapBlock kind (s.mount.groupOf kind n))) (s.mount.bitOf kind n) v)
    (hb.desc kind _ k hn hk)
  simp only [Ext2.descAt]
  rw [show (s.setMark kind n v).mount = s.mount from rfl, Ext2.setMark, hsame]

lemma bitmapBlock_setMark {kind kind' : BitmapKind} {n k : Nat} (v : Bool)
    (hn : s.mount.groupOf kind n < s.mount.groupDescCount) (hk : k < s.mount.groupDescCount) :
    (s.setMark kind n v).bitmapBlock kind' k = s.bitmapBlock kind' k := by
  rw [Ext2.bitmapBlock, descAt_setMark hs hb v hn hk, Ext2.bitmapBlock]

lemma marked_setMark {kind kind' : BitmapKind} {n x : Nat} (v : Bool) (hn : s.mount.InRange kind n)
    (hx : s.mount.InRange kind' x) (hgn : s.mount.groupOf kind n < s.mount.groupDescCount)
    (hgx : s.mount.groupOf kind' x < s.mount.groupDescCount) :
    (s.setMark kind n v).marked kind' x =
      if kind' = kind ∧ x = n then v else s.marked kind' x := by
  rw [Ext2.marked, show (s.setMark kind n v).mount = s.mount from rfl,
    bitmapBlock_setMark hs hb v hgn hgx]
  by_cases hplace : kind' = kind ∧ s.mount.groupOf kind' x = s.mount.groupOf kind n
  · obtain ⟨rfl, hgroup⟩ := hplace
    rw [hgroup, Ext2.setMark, blockAt_writeBlock_self hs.healthy,
      bitTest_bitSet _ (hs.bitOf_lt kind' n)]
    have hiff : s.mount.bitOf kind' x = s.mount.bitOf kind' n ↔ x = n := by
      constructor
      · intro hbit
        have := eq_of_div_mod hgroup hbit
        have := hn.1
        have := hx.1
        omega
      · rintro rfl
        rfl
    simp only [hiff, true_and]
    rw [Ext2.marked, hgroup]
  · have hlba : blockToLba s.mount (s.bitmapBlock kind' (s.mount.groupOf kind' x)) ≠
        blockToLba s.mount (s.bitmapBlock kind (s.mount.groupOf kind n)) :=
      fun he => hplace (hb.distinct kind' kind _ _ hgx hgn he)
    rw [Ext2.setMark, blockAt_writeBlock_of_ne hs.healthy _ hlba, if_neg, Ext2.marked]
    rintro ⟨rfl, rfl⟩
    exact hplace ⟨rfl, rfl⟩

lemma setMark_setMark_back {n : Nat} (hn : s.mount.groupOf kind n < s.mount.groupDescCount)
    (hfree : s.marked kind n = false) :
    (s.setMark kind n true).setMark kind n false = s := by
  have hblock : (s.setMark kind n true).blockAt (s.bitmapBlock kind (s.mount.groupOf kind n)) =
      bitSet (s.blockAt (s.bitmapBlock kind (s.mount.groupOf kind n))) (s.mount.bitOf kind n) true :=
    blockAt_writeBlock_self hs.healthy _
  rw [Ext2.setMark, show (s.setMark kind n true).mount = s.mount from rfl,
    bitmapBlock_setMark hs hb true hn hn, hblock,
    bitSet_bitSet_back (hs.bitOf_lt kind n) hfree]
  exact writeBlock_writeBlock_back hs.healthy _ _

/-! ### The law -/

/-- A scan for a mark with its inverse. -/
lemma allocatorLaw_of_scan {alloc : Ext2 → Ext2 × Option Nat} {free : Ext2 → Nat → Ext2}
    (hcover : s.mount.limit kind ≤
      s.mount.first kind + s.mount.groupDescCount * s.mount.perGroup kind)
    (halloc : alloc s = s.take kind (s.firstUnmarked kind (List.range s.mount.groupDescCount)))
    (hfree : ∀ n, s.mount.InRange kind n →
      free (s.setMark kind n true) n = (s.setMark kind n true).setMark kind n false) :
    AllocatorLaw kind alloc free s := by
  rw [List.range_eq_range'] at halloc
  rcases firstUnmarked_range' kind s.mount.groupDescCount FirstFit.usedBefore_zero with
    ⟨n, hn, hleast⟩ | ⟨hnone, hused⟩
  · rw [hn, Ext2.take] at halloc
    obtain ⟨hlo, hhi, hclear⟩ := hleast.1
    have hrange : s.mount.InRange kind n := ⟨hlo, hhi⟩
    have hgroup := groupOf_lt hrange hcover
    have hsome : ∀ x, (alloc s).2 = some x → n = x := by
      intro x hx
      rw [halloc] at hx
      exact Option.some.inj hx
    constructor
    · rw [halloc]
      constructor
      · intro h
        cases h
      · intro h
        rw [h n hrange] at hclear
        cases hclear
    · rw [halloc]
      intro h
      cases h
    · intro x hx
      obtain rfl := hsome x hx
      exact hleast
    · intro x hx
      obtain rfl := hsome x hx
      rw [halloc]
      exact setsBit_setMark hs hclear
    · intro x hx kind' y hy hgy
      obtain rfl := hsome x hx
      rw [halloc]
      exact marked_setMark hs hb true hrange hy hgroup hgy
    · intro x hx
      obtain rfl := hsome x hx
      rw [halloc, hfree n hrange]
      exact setMark_setMark_back hs hb hgroup hclear
  · rw [hnone, Ext2.take] at halloc
    have hno : ∀ x, (alloc s).2 ≠ some x := by
      intro x hx
      rw [halloc] at hx
      cases hx
    constructor
    · rw [halloc]
      refine ⟨fun _ n hn => hused.all ?_ hn.1 hn.2, fun _ => rfl⟩
      rwa [Nat.zero_add]
    · rw [halloc]
      exact fun _ => rfl
    · exact fun x hx => absurd hx (hno x)
    · exact fun x hx => absurd hx (hno x)
    · exact fun x hx => absurd hx (hno x)
    · exact fun x hx => absurd hx (hno x)

end

/-- A group descriptor at an offset of a descriptor block. -/
def putDesc (b : Ext2Block) (off blockBitmap inodeBitmap inodeTable : Nat) : Ext2Block :=
  ((b.setLe32 off blockBitmap).setLe32 (off + 4) inodeBitmap).setLe32 (off + 8) inodeTable

lemma soundGroups_ofBlocks {blk : Nat → Ext2Block}
    (hok : (ext2InitStateFromPartition (.unmounted (.ofBlocks blk)) 0).2 = true)
    (hblocks : 0 < (Ext2.ofBlocks blk).mount.blocksPerGroup ∧
      (Ext2.ofBlocks blk).mount.blocksPerGroup ≤ 8192)
    (hinodes : 0 < (Ext2.ofBlocks blk).mount.inodesPerGroup ∧
      (Ext2.ofBlocks blk).mount.inodesPerGroup ≤ 8192)
    (hlimits : (Ext2.ofBlocks blk).mount.firstDataBlock ≤ (Ext2.ofBlocks blk).mount.totalBlocks ∧
      (Ext2.ofBlocks blk).mount.totalBlocks < 2147483648 ∧
      (Ext2.ofBlocks blk).mount.totalInodes < 2147483648) : (Ext2.ofBlocks blk).SoundGroups :=
  ⟨Ext2.ofBlocks_healthy blk, ⟨_, 0, by decide, hok, rfl⟩, hblocks, hinodes, hlimits.1, hlimits.2.1,
    hlimits.2.2⟩

/-- One group, with its bitmaps in blocks 3 and 4. -/
def plainDisk : Nat → Ext2Block
  | 1 => superblockBlock 8 64 1 8192 8
  | 2 => putDesc Bytes.zero 0 3 4 5
  | _ => Bytes.zero

lemma plain_soundGroups : (Ext2.ofBlocks plainDisk).SoundGroups :=
  soundGroups_ofBlocks (by decide) (by decide) (by decide)
    (by decide)

lemma plain_bitmapsApart : (Ext2.ofBlocks plainDisk).BitmapsApart := by
  have hcount : (Ext2.ofBlocks plainDisk).mount.groupDescCount = 1 := by decide
  constructor
  · intro kind kind' k k' hk hk' he
    obtain rfl : k = 0 := by omega
    obtain rfl : k' = 0 := by omega
    cases kind <;> cases kind'
    · exact ⟨rfl, rfl⟩
    · exact absurd he (by decide)
    · exact absurd he (by decide)
    · exact ⟨rfl, rfl⟩
  · intro kind k k' hk hk'
    obtain rfl : k = 0 := by omega
    obtain rfl : k' = 0 := by omega
    cases kind
    · decide
    · decide

/-- The allocator of the blocks, and that of the inodes if every inode number lies in a group. -/
theorem allocators_first_fit (hs : s.SoundGroups) (hb : s.BitmapsApart) :
    AllocatorLaw .block allocBlock freeBlock s ∧
      (s.mount.InodesCovered → AllocatorLaw .inode allocInode freeInode s) := by
  constructor
  · apply allocatorLaw_of_scan hs hb hs.block_cover
    · exact allocBlockIn_eq hs fun g hg => List.mem_range.mp hg
    · intro n hn
      exact freeBlock_eq (hs.setMark .block n true) hn
  · intro hc
    apply allocatorLaw_of_scan hs hb hc.inode_cover
    · exact allocInodeIn_eq hs hc fun g hg => List.mem_range.mp hg
    · intro n hn
      exact freeInode_eq (hs.setMark .inode n true) hn (groupOf_lt hn hc.inode_cover)

/-- The law on a small image. -/
theorem allocators_first_fit_plain :
    AllocatorLaw .block allocBlock freeBlock (Ext2.ofBlocks plainDisk) ∧
      AllocatorLaw .inode allocInode freeInode (Ext2.ofBlocks plainDisk) := by
  obtain ⟨hblock, hinode⟩ := allocators_first_fit plain_soundGroups plain_bitmapsApart
  exact ⟨hblock, hinode ⟨by decide, by decide⟩⟩

/-! ### Disks on which the allocators go wrong -/

/-- The groups of the disk are sound, its bitmaps are distinct blocks, and still the allocator does
not keep the law. -/
structure BreaksLaw (kind : BitmapKind) (alloc : Ext2 → Ext2 × Option Nat)
    (free : Ext2 → Nat → Ext2) (blk : Nat → Ext2Block) : Prop where
  sound : (Ext2.ofBlocks blk).SoundGroups
  distinct : (Ext2.ofBlocks blk).BitmapsDistinct
  breaks : ¬ AllocatorLaw kind alloc free (Ext2.ofBlocks blk)

/-- The block bitmap is the block of the descriptors. -/
def overlapDisk : Nat → Ext2Block
  | 1 => superblockBlock 8 64 1 8192 8
  | 2 => putDesc Bytes.zero 0 2 3 4
  | _ => Bytes.zero

/-- The block bitmaps of the two groups have different numbers and the same LBA. -/
def aliasDisk : Nat → Ext2Block
  | 1 => superblockBlock 2 2 0 1 1
  | 2 => putDesc (putDesc Bytes.zero 0 5 6 8) 32 2147483653 7 9
  | _ => Bytes.zero

/-- There is one group with one inode, and the superblock counts two inodes. -/
def uncoveredDisk : Nat → Ext2Block
  | 1 => superblockBlock 2 64 1 8192 1
  | 2 => putDesc Bytes.zero 0 3 4 5
  | 4 => bitSet Bytes.zero 0 true
  | _ => Bytes.zero

lemma bitmapsDistinct_of_one (hcount : s.mount.groupDescCount = 1)
    (hne : s.bitmapBlock .block 0 ≠ s.bitmapBlock .inode 0) : s.BitmapsDistinct := by
  intro kind kind' k k' hk hk' he
  obtain rfl : k = 0 := by omega
  obtain rfl : k' = 0 := by omega
  cases kind <;> cases kind'
  · exact ⟨rfl, rfl⟩
  · exact absurd he hne
  · exact absurd he.symm hne
  · exact ⟨rfl, rfl⟩

lemma overlap_breaks : BreaksLaw .block allocBlock freeBlock overlapDisk where
  sound := soundGroups_ofBlocks (by decide +kernel) (by decide +kernel) (by decide +kernel)
    (by decide +kernel)
  distinct := bitmapsDistinct_of_one (by decide +kernel) (by decide +kernel)
  breaks h := by
    have hback := h.free 1 (by decide +kernel)
    have hbyte : ((freeBlock (allocBlock (Ext2.ofBlocks overlapDisk)).1 1).blockAt 2).get 0 =
        ((Ext2.ofBlocks overlapDisk).blockAt 2).get 0 := by rw [hback]
    exact absurd hbyte (by decide +kernel)

lemma alias_breaks : BreaksLaw .block allocBlock freeBlock aliasDisk where
  sound := soundGroups_ofBlocks (by decide) (by decide) (by decide)
    (by decide)
  distinct := by
    intro kind kind' k k' hk hk' he
    have hcount : (Ext2.ofBlocks aliasDisk).mount.groupDescCount = 2 := by decide
    obtain rfl | rfl : k = 0 ∨ k = 1 := by omega
    all_goals obtain rfl | rfl : k' = 0 ∨ k' = 1 := by omega
    all_goals cases kind <;> cases kind' <;>
      first | exact ⟨rfl, rfl⟩ | exact absurd he (by decide)
  breaks h := by
    have hmark := h.marks 0 (by decide) .block 1 (by decide) (by decide)
    exact absurd hmark (by decide)

lemma uncovered_breaks : BreaksLaw .inode allocInode freeInode uncoveredDisk where
  sound := soundGroups_ofBlocks (by decide) (by decide) (by decide)
    (by decide)
  distinct := bitmapsDistinct_of_one (by decide) (by decide)
  breaks h := by
    have hmark := h.fails_iff.mp (by decide) 2 (by decide)
    exact absurd hmark (by decide)

/-- The bitmaps of group 0 on `wrapDisk`. -/
def wrapFirst : BitmapKind → Nat
  | .block => 1048576
  | .inode => 1048577

/-- The descriptors of groups `32 * j` to `32 * j + 31`, with the bitmaps in consecutive blocks. -/
def wrapDesc (j : Nat) : Ext2Block :=
  Bytes.ofFun fun o =>
    if o % 32 < 4 then Le.byte (wrapFirst .block + 2 * (32 * j + o / 32)) (o % 32)
    else if o % 32 < 8 then Le.byte (wrapFirst .inode + 2 * (32 * j + o / 32)) (o % 32 - 4)
    else 0

/-- Group 524288 is the first whose inode numbers do not fit into a word. The one inode is marked
in group 0. -/
def wrapDisk (b : Nat) : Ext2Block :=
  if b = 1 then superblockBlock 1 524289 0 1 8192
  else if 2 ≤ b ∧ b < 16387 then wrapDesc (b - 2)
  else if b = 1048577 then bitSet Bytes.zero 0 true
  else Bytes.zero

lemma wrap_init : (ext2InitStateFromPartition (.unmounted (.ofBlocks wrapDisk)) 0).2 = true ∧
    (Ext2.ofBlocks wrapDisk).mount = ⟨true, 0, 8192, 1, 128, 2, 524289, 1, 524289, 0⟩ ∧
    (Ext2.ofBlocks wrapDisk).marked .inode 1 = true := by
  decide

lemma wrap_mount : (Ext2.ofBlocks wrapDisk).mount =
    ⟨true, 0, 8192, 1, 128, 2, 524289, 1, 524289, 0⟩ := wrap_init.2.1

lemma wrap_soundGroups : (Ext2.ofBlocks wrapDisk).SoundGroups := by
  apply soundGroups_ofBlocks
  · exact wrap_init.1
  · simp [wrap_mount]
  · simp [wrap_mount]
  · simp [wrap_mount]

lemma wrap_blockAt {b : Nat} (hb : b < 2147483648) :
    (Ext2.ofBlocks wrapDisk).blockAt b = wrapDisk b :=
  Ext2.blockAt_ofBlocks (by rw [wrap_mount]) hb

lemma wrap_bitmapBlock (kind : BitmapKind) {k : Nat} (hk : k < 524289) :
    (Ext2.ofBlocks wrapDisk).bitmapBlock kind k = wrapFirst kind + 2 * k := by
  have hblock : (Ext2.ofBlocks wrapDisk).blockAt (2 + k / 32) = wrapDesc (k / 32) := by
    rw [wrap_blockAt (by omega), wrapDisk, if_neg (by omega), if_pos (by omega),
      Nat.add_sub_cancel_left]
  rw [Ext2.bitmapBlock, Ext2.descAt, wrap_mount]
  simp only [hblock]
  have hlt : wrapFirst kind + 2 * k < 4294967296 := by
    cases kind <;> simp only [wrapFirst] <;> omega
  cases kind
  · apply Bytes.le32_of_bytes hlt
    intro j hj
    rw [wrapDesc, Bytes.get_ofFun _ (by omega), if_pos (by omega),
      show (k % 32 * 32 + j) % 32 = j by omega,
      show 32 * (k / 32) + (k % 32 * 32 + j) / 32 = k by omega]
  · apply Bytes.le32_of_bytes hlt
    intro j hj
    rw [wrapDesc, Bytes.get_ofFun _ (by omega), if_neg (by omega), if_pos (by omega),
      show (k % 32 * 32 + 4 + j) % 32 - 4 = j by omega,
      show 32 * (k / 32) + (k % 32 * 32 + 4 + j) / 32 = k by omega]

lemma wrap_bitmapsDistinct : (Ext2.ofBlocks wrapDisk).BitmapsDistinct := by
  intro kind kind' k k' hk hk' he
  rw [wrap_bitmapBlock kind hk, wrap_bitmapBlock kind' hk'] at he
  cases kind <;> cases kind' <;> simp only [wrapFirst] at he
  · exact ⟨rfl, by omega⟩
  · exact absurd he (by omega)
  · exact absurd he (by omega)
  · exact ⟨rfl, by omega⟩

lemma allocInodeIn_pass (hs : s.SoundGroups) {groups rest : List Nat}
    (hg : ∀ g ∈ groups, g < s.mount.groupDescCount)
    (hnone : ∀ g ∈ groups, firstFreeBit (s.blockAt (s.bitmapBlock .inode g)) s.mount.inodesPerGroup
      (fun bit => u32 (g * s.mount.inodesPerGroup + bit + 1) ≤ s.mount.totalInodes) = none) :
    allocInodeIn s (groups ++ rest) = allocInodeIn s rest := by
  induction groups with
  | nil => rfl
  | cons g groups ih =>
    have hscan : firstFreeBit (s.blockAt (s.descAt g).inodeBitmap) _ _ = none :=
      hnone g (List.mem_cons_self ..)
    simp only [List.cons_append, allocInodeIn, hs.readGroupDesc_eq (hg g (List.mem_cons_self ..)),
      readBlock_eq hs.healthy, hscan]
    exact ih (fun g' h => hg g' (List.mem_cons_of_mem _ h))
      fun g' h => hnone g' (List.mem_cons_of_mem _ h)

lemma wrap_pass {g : Nat} (hg : g < 524288) :
    firstFreeBit ((Ext2.ofBlocks wrapDisk).blockAt ((Ext2.ofBlocks wrapDisk).bitmapBlock .inode g))
      (Ext2.ofBlocks wrapDisk).mount.inodesPerGroup
      (fun bit => u32 (g * (Ext2.ofBlocks wrapDisk).mount.inodesPerGroup + bit + 1) ≤
        (Ext2.ofBlocks wrapDisk).mount.totalInodes) = none := by
  have hbase : (Ext2.ofBlocks wrapDisk).mount.first .inode +
      g * (Ext2.ofBlocks wrapDisk).mount.perGroup .inode < 4294967296 := by
    simp only [wrap_mount, Ext2MountState.first, Ext2MountState.perGroup]
    omega
  have hscan := firstFreeBit_eq_freeSlot (Ext2.ofBlocks wrapDisk) .inode (g := g) hbase
    (wrap_soundGroups.limit_lt .inode) (fun i => decide_eq_true_iff)
  have hsum : ∀ i, g * (Ext2.ofBlocks wrapDisk).mount.inodesPerGroup + i + 1 =
      (Ext2.ofBlocks wrapDisk).mount.first .inode +
        g * (Ext2.ofBlocks wrapDisk).mount.perGroup .inode + i := by
    simp only [Ext2MountState.first, Ext2MountState.perGroup]
    omega
  simp only [hsum, ← Nat.lt_succ_iff]
  refine hscan.trans (List.find?_eq_none.mpr fun i hi => ?_)
  have hi' := List.mem_range.mp hi
  simp only [wrap_mount, Ext2MountState.first, Ext2MountState.perGroup, Ext2MountState.limit] at hi' ⊢
  rw [show 1 + g * 8192 + i = 1 by omega, wrap_init.2.2]
  decide

lemma wrap_allocInode : (allocInode (Ext2.ofBlocks wrapDisk)).2 = some 1 := by
  have hrange : List.range (Ext2.ofBlocks wrapDisk).mount.groupDescCount =
      List.range 524288 ++ [524288] := by
    exact List.range_succ
  have hlast : (Ext2.ofBlocks wrapDisk).blockAt ((Ext2.ofBlocks wrapDisk).descAt 524288).inodeBitmap =
      Bytes.zero := by
    have hblock : ((Ext2.ofBlocks wrapDisk).descAt 524288).inodeBitmap = 2097153 :=
      wrap_bitmapBlock .inode (by decide)
    rw [hblock, wrap_blockAt (by decide)]
    rfl
  have hbit : firstFreeBit Bytes.zero 8192 (fun bit => u32 (524288 * 8192 + bit + 1) ≤ 1) = some 0 := by
    have hfun : (fun bit => decide (u32 (524288 * 8192 + bit + 1) ≤ 1)) =
        fun bit => decide (u32 (1 + bit) < 2) := by
      funext bit
      rw [Bool.eq_iff_iff, decide_eq_true_iff, decide_eq_true_iff]
      unfold u32
      omega
    rw [firstFreeBit, hfun, FirstFit.takeWhile_range_u32 (by decide) (by decide)]
    rfl
  rw [allocInode, hrange, allocInodeIn_pass wrap_soundGroups]
  · simp only [allocInodeIn, wrap_soundGroups.readGroupDesc_eq (show 524288 < _ by
      decide), readBlock_eq wrap_soundGroups.healthy, hlast]
    simp only [wrap_mount, hbit]
    rfl
  · intro g hg
    have hlt := List.mem_range.mp hg
    exact hlt.trans (by decide)
  · intro g hg
    exact wrap_pass (List.mem_range.mp hg)

lemma wrap_breaks : BreaksLaw .inode allocInode freeInode wrapDisk where
  sound := wrap_soundGroups
  distinct := wrap_bitmapsDistinct
  breaks h := by
    have hfree := (h.least 1 wrap_allocInode).1.2.2
    cases hfree

/-- Distinct bitmap blocks are not enough: a bitmap may lie in the block of the descriptors, two
bitmaps may have the same LBA, and the inodes counted may not be those that the groups hold. -/
theorem allocators_fail :
    ((Ext2.ofBlocks overlapDisk).SoundGroups ∧ (Ext2.ofBlocks overlapDisk).BitmapsDistinct ∧
      ¬ AllocatorLaw .block allocBlock freeBlock (Ext2.ofBlocks overlapDisk)) ∧
    ((Ext2.ofBlocks aliasDisk).SoundGroups ∧ (Ext2.ofBlocks aliasDisk).BitmapsDistinct ∧
      ¬ AllocatorLaw .block allocBlock freeBlock (Ext2.ofBlocks aliasDisk)) ∧
    ((Ext2.ofBlocks uncoveredDisk).SoundGroups ∧ (Ext2.ofBlocks uncoveredDisk).BitmapsDistinct ∧
      ¬ AllocatorLaw .inode allocInode freeInode (Ext2.ofBlocks uncoveredDisk)) ∧
    ((Ext2.ofBlocks wrapDisk).SoundGroups ∧ (Ext2.ofBlocks wrapDisk).BitmapsDistinct ∧
      ¬ AllocatorLaw .inode allocInode freeInode (Ext2.ofBlocks wrapDisk)) := by
  refine ⟨?_, ?_, ?_, ?_⟩
  · exact ⟨overlap_breaks.sound, overlap_breaks.distinct, overlap_breaks.breaks⟩
  · exact ⟨alias_breaks.sound, alias_breaks.distinct, alias_breaks.breaks⟩
  · exact ⟨uncovered_breaks.sound, uncovered_breaks.distinct, uncovered_breaks.breaks⟩
  · exact ⟨wrap_breaks.sound, wrap_breaks.distinct, wrap_breaks.breaks⟩

end NeuroSpark
