import Mathlib.Data.Nat.Bitwise
import NeuroSpark.Ext2.Blocks

/-!
# What an ext2 image holds

The abstract contents of a mounted image: which blocks and inodes are marked used, the inodes and
the data blocks (`Ext2View`). An image in order has a layout: its descriptors name bitmaps and
inode tables that are distinct blocks of the image. For such an image each function of the driver
that touches the disk is described by what it does to the contents, and no other part changes.
-/

namespace NeuroSpark

open Function (update update_self update_of_ne)
open Word

lemma toNat_mask {p : Nat} (hp : p < 8) : (UInt8.ofNat (2 ^ p)).toNat = 2 ^ p :=
  UInt8.toNat_ofNat_of_lt' (Nat.pow_lt_pow_right (by decide) hp)

lemma bitTest_eq_testBit (bitmap : Ext2Block) (bit : Nat) :
    bitTest bitmap bit = (bitmap.get (bit / 8)).toNat.testBit (bit % 8) := by
  have hand : (bitmap.get (bit / 8) &&& UInt8.ofNat (2 ^ (bit % 8))).toNat =
      ((bitmap.get (bit / 8)).toNat.testBit (bit % 8)).toNat * 2 ^ (bit % 8) := by
    rw [UInt8.toNat_and, toNat_mask (Nat.mod_lt _ (by decide)), Nat.and_two_pow]
  rw [bitTest, Bool.eq_iff_iff, decide_eq_true_iff, Ne, ← UInt8.toNat_inj, hand]
  cases (bitmap.get (bit / 8)).toNat.testBit (bit % 8) <;> simp

lemma testBit_setBit (x : UInt8) {p q : Nat} (hp : p < 8) (hq : q < 8) (v : Bool) :
    (if v then x ||| UInt8.ofNat (2 ^ p) else x &&& ~~~UInt8.ofNat (2 ^ p)).toNat.testBit q =
      if q = p then v else x.toNat.testBit q := by
  cases v with
  | true =>
    rw [if_pos rfl, UInt8.toNat_or, toNat_mask hp, Nat.testBit_or, Nat.testBit_two_pow]
    by_cases h : q = p
    · simp [h]
    · simp [h, Ne.symm h]
  | false =>
    have hnot : (~~~UInt8.ofNat (2 ^ p)).toNat = 2 ^ 8 - (2 ^ p + 1) := by
      have hsize : UInt8.size = 256 := rfl
      rw [UInt8.toNat_not, toNat_mask hp]
      omega
    have hlt : 2 ^ p < 2 ^ 8 := Nat.pow_lt_pow_right (by decide) hp
    rw [if_neg (by decide), UInt8.toNat_and, hnot, Nat.testBit_and,
      Nat.testBit_two_pow_sub_succ hlt, Nat.testBit_two_pow]
    by_cases h : q = p
    · simp [h]
    · simp [h, hq, Ne.symm h]

lemma bitTest_bitSet (bitmap : Ext2Block) {i j : Nat} (hi : i < 8192) (v : Bool) :
    bitTest (bitSet bitmap i v) j = if j = i then v else bitTest bitmap j := by
  have hi8 : i % 8 < 8 := Nat.mod_lt _ (by decide)
  have hj8 : j % 8 < 8 := Nat.mod_lt _ (by decide)
  rw [bitTest_eq_testBit, bitTest_eq_testBit, bitSet]
  by_cases hbyte : j / 8 = i / 8
  · rw [hbyte]
    have hget := Bytes.get_patch_of_mem bitmap (i / 8) 0
      [if v then bitmap.get (i / 8) ||| UInt8.ofNat (2 ^ (i % 8))
        else bitmap.get (i / 8) &&& ~~~UInt8.ofNat (2 ^ (i % 8))] (by simp) (by omega)
    rw [Nat.add_zero] at hget
    simp only [hget, List.getElem_cons_zero]
    rw [testBit_setBit _ hi8 hj8]
    have hiff : j % 8 = i % 8 ↔ j = i := by omega
    simp only [hiff]
  · have hne : j ≠ i := by
      rintro rfl
      exact hbyte rfl
    rw [if_neg hne]
    rcases Nat.lt_or_gt_of_ne hbyte with h | h
    · rw [Bytes.get_patch_of_lt _ _ h]
    · rw [Bytes.get_patch_of_ge _ _ (by rw [List.length_singleton]; omega)]

lemma joinSectors_halves (b : Ext2Block) : joinSectors (lowerHalf b) (upperHalf b) = b := by
  apply Bytes.ext_get
  intro k hk
  rw [joinSectors, Bytes.get_ofFun _ hk]
  split_ifs with h
  · rw [lowerHalf, Bytes.get_ofFun _ h]
  · have hk' : 512 + (k - 512) = k := by omega
    rw [upperHalf, Bytes.get_ofFun _ (by omega), hk']

lemma lowerHalf_joinSectors (a b : Sector) : lowerHalf (joinSectors a b) = a := by
  apply Bytes.ext_get
  intro k hk
  rw [lowerHalf, Bytes.get_ofFun _ hk, joinSectors, Bytes.get_ofFun _ (by omega), if_pos hk]

lemma upperHalf_joinSectors (a b : Sector) : upperHalf (joinSectors a b) = b := by
  apply Bytes.ext_get
  intro k hk
  rw [upperHalf, Bytes.get_ofFun _ hk, joinSectors, Bytes.get_ofFun _ (by omega),
    if_neg (by omega), Nat.add_sub_cancel_left]

def Ext2.blockAt (s : Ext2) (b : Nat) : Ext2Block :=
  joinSectors (s.dev.sectors (blockToLba s.mount b))
    (s.dev.sectors (u32 (blockToLba s.mount b + 1)))

lemma readBlock_eq {s : Ext2} (hs : s.dev.Healthy) (b : Nat) :
    readBlock s b = some (s.blockAt b) := by
  simp only [readBlock, hs.read, Ext2.blockAt]

lemma blockToLba_eq {m : Ext2MountState} (hm : m.partitionLba + 2 * m.totalBlocks ≤ 4294967296)
    {b : Nat} (hb : b < m.totalBlocks) : blockToLba m b = m.partitionLba + 2 * b := by
  unfold blockToLba u32
  omega

lemma writeBlock_healthy {s : Ext2} (hs : s.dev.Healthy) (b : Nat) (buf : Ext2Block) :
    (writeBlock s b buf).dev.Healthy := (hs.write _ _).write _ _

lemma blockAt_writeBlock {s : Ext2} (hs : s.dev.Healthy)
    (hm : s.mount.partitionLba + 2 * s.mount.totalBlocks ≤ 4294967296) {b x : Nat}
    (hb : b < s.mount.totalBlocks) (hx : x < s.mount.totalBlocks) (buf : Ext2Block) :
    (writeBlock s b buf).blockAt x = if x = b then buf else s.blockAt x := by
  have hlb := blockToLba_eq hm hb
  have hlx := blockToLba_eq hm hx
  have hb1 : u32 (blockToLba s.mount b + 1) = s.mount.partitionLba + 2 * b + 1 := by
    unfold u32
    omega
  have hx1 : u32 (blockToLba s.mount x + 1) = s.mount.partitionLba + 2 * x + 1 := by
    unfold u32
    omega
  have hmount : (writeBlock s b buf).mount = s.mount := rfl
  have hsect : (writeBlock s b buf).dev.sectors = update (update s.dev.sectors
      (s.mount.partitionLba + 2 * b) (lowerHalf buf)) (s.mount.partitionLba + 2 * b + 1)
      (upperHalf buf) := by
    simp only [writeBlock]
    rw [(hs.write _ _).sectors_write, hs.sectors_write, hb1, hlb]
  unfold Ext2.blockAt
  rw [hmount, hsect, hx1, hlx]
  split_ifs with h
  · subst h
    rw [update_of_ne (by omega), update_self, update_self,
      joinSectors_halves]
  · rw [update_of_ne (by omega), update_of_ne (by omega),
      update_of_ne (by omega), update_of_ne (by omega)]

/-- The blocks that the group descriptors name. -/
structure Ext2Layout where
  blockBitmap : Nat → Nat
  inodeBitmap : Nat → Nat
  inodeTable : Nat → Nat

/-- The blocks that do not hold data. -/
inductive MetaRole where
  | desc (j : Nat)
  | blockBitmap (k : Nat)
  | inodeBitmap (k : Nat)
  | inodeTable (k j : Nat)
  deriving DecidableEq

/-- The roles that occur: groups with blocks or inodes, and the blocks of their tables. -/
def MetaRole.Valid (m : Ext2MountState) : MetaRole → Prop
  | .desc j => ∃ k < m.groupDescCount, j = k / 32
  | .blockBitmap k => m.firstDataBlock + k * m.blocksPerGroup < m.totalBlocks
  | .inodeBitmap k => k * m.inodesPerGroup < m.totalInodes
  | .inodeTable k j => k * m.inodesPerGroup < m.totalInodes ∧
      j * ext2BlockSize < m.inodesPerGroup * m.inodeSize

def Ext2Layout.block (L : Ext2Layout) (m : Ext2MountState) : MetaRole → Nat
  | .desc j => m.groupDescBlock + j
  | .blockBitmap k => L.blockBitmap k
  | .inodeBitmap k => L.inodeBitmap k
  | .inodeTable k j => L.inodeTable k + j

def Ext2Layout.IsMeta (L : Ext2Layout) (m : Ext2MountState) (b : Nat) : Prop :=
  ∃ r, r.Valid m ∧ L.block m r = b

/-- The numbers of the superblock fit together and the layout is one of distinct blocks. -/
structure Ext2Layout.Fits (L : Ext2Layout) (m : Ext2MountState) : Prop where
  blocksPerGroup : 0 < m.blocksPerGroup ∧ m.blocksPerGroup ≤ 8192
  inodesPerGroup : 0 < m.inodesPerGroup ∧ m.inodesPerGroup ≤ 8192
  inodeSize : 128 ≤ m.inodeSize ∧ m.inodeSize ∣ 1024
  groupDescCount : m.groupDescCount = (m.totalBlocks + m.blocksPerGroup - 1) / m.blocksPerGroup
  groupDescBlock : m.groupDescBlock = 2
  firstDataBlock : m.firstDataBlock ≤ 2
  totalInodes : m.totalInodes ≤ m.groupDescCount * m.inodesPerGroup ∧ m.totalInodes < 2147483648
  inodeNumbers : m.groupDescCount * m.inodesPerGroup < 4294967296
  blocks : m.partitionLba + 2 * m.totalBlocks ≤ 4294967296
  lt_totalBlocks : ∀ r : MetaRole, r.Valid m → L.block m r < m.totalBlocks
  injective : ∀ r r' : MetaRole, r.Valid m → r'.Valid m → L.block m r = L.block m r' → r = r'

/-- The group descriptor on disk. -/
def Ext2.descAt (s : Ext2) (k : Nat) : Ext2GroupDesc :=
  let raw := s.blockAt (s.mount.groupDescBlock + k / 32)
  ⟨raw.le32 (k % 32 * 32), raw.le32 (k % 32 * 32 + 4), raw.le32 (k % 32 * 32 + 8)⟩

/-- A mounted image with this layout, on a device that does not fail. -/
structure Ext2.HasLayout (s : Ext2) (L : Ext2Layout) : Prop where
  healthy : s.dev.Healthy
  fits : L.Fits s.mount
  desc : ∀ k < s.mount.groupDescCount,
    s.descAt k = ⟨L.blockBitmap k, L.inodeBitmap k, L.inodeTable k⟩

@[ext]
structure Ext2View where
  blockUsed : Nat → Bool
  inodeUsed : Nat → Bool
  inode : Nat → Ext2Inode
  data : Nat → Ext2Block

/-- The place of an inode in the image. -/
def Ext2Layout.inodeBlock (L : Ext2Layout) (m : Ext2MountState) (n : Nat) : Nat :=
  L.inodeTable ((n - 1) / m.inodesPerGroup) +
    (n - 1) % m.inodesPerGroup * m.inodeSize / ext2BlockSize

def inodeOffset (m : Ext2MountState) (n : Nat) : Nat :=
  (n - 1) % m.inodesPerGroup * m.inodeSize % ext2BlockSize

def ValidBlock (m : Ext2MountState) (b : Nat) : Prop := m.firstDataBlock ≤ b ∧ b < m.totalBlocks

def ValidInode (m : Ext2MountState) (n : Nat) : Prop := 1 ≤ n ∧ n ≤ m.totalInodes

instance (m : Ext2MountState) (b : Nat) : Decidable (ValidBlock m b) :=
  inferInstanceAs (Decidable (_ ∧ _))

instance (m : Ext2MountState) (n : Nat) : Decidable (ValidInode m n) :=
  inferInstanceAs (Decidable (_ ∧ _))

open Classical in
/-- The contents of an image with the blocks `blk`. -/
noncomputable def Ext2Layout.view (L : Ext2Layout) (m : Ext2MountState) (blk : Nat → Ext2Block) :
    Ext2View where
  blockUsed b := decide (ValidBlock m b) &&
    bitTest (blk (L.blockBitmap ((b - m.firstDataBlock) / m.blocksPerGroup)))
      ((b - m.firstDataBlock) % m.blocksPerGroup)
  inodeUsed n := decide (ValidInode m n) &&
    bitTest (blk (L.inodeBitmap ((n - 1) / m.inodesPerGroup))) ((n - 1) % m.inodesPerGroup)
  inode n :=
    if ValidInode m n then
      Bytes.ofFun fun i => (blk (L.inodeBlock m n)).get (inodeOffset m n + i)
    else Bytes.zero
  data b := if b < m.totalBlocks ∧ ¬ L.IsMeta m b then blk b else Bytes.zero

noncomputable def Ext2.view (s : Ext2) (L : Ext2Layout) : Ext2View := L.view s.mount s.blockAt

section

variable {s : Ext2} {L : Ext2Layout} {m : Ext2MountState}

@[simp] lemma writeBlock_mount (s : Ext2) (b : Nat) (buf : Ext2Block) :
    (writeBlock s b buf).mount = s.mount := rfl

lemma Ext2.HasLayout.block_lt (h : s.HasLayout L) {x : Nat} (hx : ValidBlock s.mount x) :
    x < 4294967296 := by
  have hle := h.fits.blocks
  have hlt := hx.2
  omega

lemma Ext2.HasLayout.blockAt_writeBlock (h : s.HasLayout L) {b x : Nat}
    (hb : b < s.mount.totalBlocks) (hx : x < s.mount.totalBlocks) (buf : Ext2Block) :
    (writeBlock s b buf).blockAt x = if x = b then buf else s.blockAt x :=
  NeuroSpark.blockAt_writeBlock h.healthy h.fits.blocks hb hx buf

lemma Ext2.HasLayout.of_writeBlock (h : s.HasLayout L) {b : Nat} (hb : b < s.mount.totalBlocks)
    (hdesc : ∀ j, (MetaRole.desc j).Valid s.mount → L.block s.mount (.desc j) ≠ b)
    (buf : Ext2Block) : (writeBlock s b buf).HasLayout L := by
  refine ⟨writeBlock_healthy h.healthy b buf, h.fits, fun k hk => ?_⟩
  rw [← h.desc k hk]
  have hv : (MetaRole.desc (k / 32)).Valid s.mount := ⟨k, hk, rfl⟩
  have hsame : (writeBlock s b buf).blockAt (s.mount.groupDescBlock + k / 32) =
      s.blockAt (s.mount.groupDescBlock + k / 32) := by
    have hlt := h.fits.lt_totalBlocks _ hv
    have hne := hdesc _ hv
    simp only [Ext2Layout.block] at hlt hne
    rw [h.blockAt_writeBlock hb hlt, if_neg hne]
  unfold Ext2.descAt
  rw [writeBlock_mount, hsame]

lemma Ext2.HasLayout.of_writeBlock_data (h : s.HasLayout L) {b : Nat} (hb : b < s.mount.totalBlocks)
    (hmeta : ¬ L.IsMeta s.mount b) (buf : Ext2Block) : (writeBlock s b buf).HasLayout L :=
  h.of_writeBlock hb (fun j hj he => hmeta ⟨.desc j, hj, he⟩) buf

lemma Ext2.HasLayout.of_writeBlock_role (h : s.HasLayout L) {r : MetaRole} (hr : r.Valid s.mount)
    (hd : ∀ j, r ≠ .desc j) (buf : Ext2Block) :
    (writeBlock s (L.block s.mount r) buf).HasLayout L :=
  h.of_writeBlock (h.fits.lt_totalBlocks r hr)
    (fun j hj he => hd j (h.fits.injective _ _ hj hr he).symm) buf

lemma blockBitmap_valid {b : Nat} (hb : ValidBlock m b) :
    (MetaRole.blockBitmap ((b - m.firstDataBlock) / m.blocksPerGroup)).Valid m := by
  have h := Nat.div_mul_le_self (b - m.firstDataBlock) m.blocksPerGroup
  simp only [MetaRole.Valid]
  obtain ⟨h₁, h₂⟩ := hb
  omega

lemma inodeBitmap_valid {n : Nat} (hn : ValidInode m n) :
    (MetaRole.inodeBitmap ((n - 1) / m.inodesPerGroup)).Valid m := by
  have h := Nat.div_mul_le_self (n - 1) m.inodesPerGroup
  simp only [MetaRole.Valid]
  obtain ⟨h₁, h₂⟩ := hn
  omega

lemma inodeTable_valid (hL : L.Fits m) {n : Nat} (hn : ValidInode m n) :
    (MetaRole.inodeTable ((n - 1) / m.inodesPerGroup)
      ((n - 1) % m.inodesPerGroup * m.inodeSize / ext2BlockSize)).Valid m := by
  refine ⟨inodeBitmap_valid hn, ?_⟩
  have hlt : (n - 1) % m.inodesPerGroup < m.inodesPerGroup := Nat.mod_lt _ hL.inodesPerGroup.1
  have hpos : 0 < m.inodeSize := by have := hL.inodeSize.1; omega
  calc (n - 1) % m.inodesPerGroup * m.inodeSize / ext2BlockSize * ext2BlockSize
      ≤ (n - 1) % m.inodesPerGroup * m.inodeSize := Nat.div_mul_le_self _ _
    _ < m.inodesPerGroup * m.inodeSize := Nat.mul_lt_mul_of_pos_right hlt hpos

section

variable {m : Ext2MountState} {blk blk' : Nat → Ext2Block} {b : Nat} {buf : Ext2Block}
  {r₀ : MetaRole}

/-- `blk'` is `blk` with `buf` stored in block `b`. -/
def StoredAt (m : Ext2MountState) (blk blk' : Nat → Ext2Block) (b : Nat) (buf : Ext2Block) : Prop :=
  ∀ x < m.totalBlocks, blk' x = if x = b then buf else blk x

lemma StoredAt.role (h : StoredAt m blk blk' b buf) (hL : L.Fits m) {r : MetaRole} (hr : r.Valid m)
    (hne : L.block m r ≠ b) : blk' (L.block m r) = blk (L.block m r) := by
  rw [h _ (hL.lt_totalBlocks r hr), if_neg hne]

lemma StoredAt.role_other (h : StoredAt m blk blk' (L.block m r₀) buf) (hL : L.Fits m)
    (hr₀ : r₀.Valid m) {r : MetaRole} (hr : r.Valid m) (hne : r ≠ r₀) :
    blk' (L.block m r) = blk (L.block m r) :=
  h.role hL hr fun he => hne (hL.injective r r₀ hr hr₀ he)

lemma StoredAt.role_self (h : StoredAt m blk blk' (L.block m r₀) buf) (hL : L.Fits m)
    (hr₀ : r₀.Valid m) : blk' (L.block m r₀) = buf := by
  rw [h _ (hL.lt_totalBlocks r₀ hr₀), if_pos rfl]

lemma blockUsed_congr
    (h : ∀ k, (MetaRole.blockBitmap k).Valid m → blk' (L.blockBitmap k) = blk (L.blockBitmap k)) :
    (L.view m blk').blockUsed = (L.view m blk).blockUsed := by
  funext x
  simp only [Ext2Layout.view]
  by_cases hx : ValidBlock m x
  · rw [h _ (blockBitmap_valid hx)]
  · simp [hx]

lemma inodeUsed_congr
    (h : ∀ k, (MetaRole.inodeBitmap k).Valid m → blk' (L.inodeBitmap k) = blk (L.inodeBitmap k)) :
    (L.view m blk').inodeUsed = (L.view m blk).inodeUsed := by
  funext n
  simp only [Ext2Layout.view]
  by_cases hn : ValidInode m n
  · rw [h _ (inodeBitmap_valid hn)]
  · simp [hn]

lemma inode_congr (hL : L.Fits m)
    (h : ∀ k j, (MetaRole.inodeTable k j).Valid m →
      blk' (L.inodeTable k + j) = blk (L.inodeTable k + j)) :
    (L.view m blk').inode = (L.view m blk).inode := by
  funext n
  simp only [Ext2Layout.view]
  by_cases hn : ValidInode m n
  · rw [if_pos hn, if_pos hn, Ext2Layout.inodeBlock, h _ _ (inodeTable_valid hL hn)]
  · rw [if_neg hn, if_neg hn]

lemma data_congr (h : ∀ x < m.totalBlocks, ¬ L.IsMeta m x → blk' x = blk x) :
    (L.view m blk').data = (L.view m blk).data := by
  funext x
  simp only [Ext2Layout.view]
  split_ifs with hx
  · exact h x hx.1 hx.2
  · rfl

lemma StoredAt.data_role (hr₀ : r₀.Valid m)
    (h : StoredAt m blk blk' (L.block m r₀) buf) : (L.view m blk').data = (L.view m blk).data := by
  apply data_congr
  intro x hx hmeta
  rw [h x hx, if_neg]
  rintro rfl
  exact hmeta ⟨r₀, hr₀, rfl⟩

lemma StoredAt.view_data (h : StoredAt m blk blk' b buf) (hL : L.Fits m) (hb : b < m.totalBlocks)
    (hmeta : ¬ L.IsMeta m b) :
    L.view m blk' = { L.view m blk with data := update (L.view m blk).data b buf } := by
  have hrole : ∀ r : MetaRole, r.Valid m → blk' (L.block m r) = blk (L.block m r) := by
    intro r hr
    refine h.role hL hr ?_
    rintro rfl
    exact hmeta ⟨r, hr, rfl⟩
  apply Ext2View.ext
  · exact blockUsed_congr fun k hk => hrole _ hk
  · exact inodeUsed_congr fun k hk => hrole _ hk
  · exact inode_congr hL fun k j hk => hrole _ hk
  · funext x
    by_cases hxb : x = b
    · subst hxb
      simp [Ext2Layout.view, hb, hmeta, h x hb]
    · simp only [update_of_ne hxb, Ext2Layout.view]
      split_ifs with hx
      · rw [h x hx.1, if_neg hxb]
      · rfl

lemma eq_of_div_mod {a b d : Nat} (hdiv : a / d = b / d) (hmod : a % d = b % d) : a = b := by
  rw [← Nat.div_add_mod a d, ← Nat.div_add_mod b d, hdiv, hmod]

lemma StoredAt.view_blockBit {x : Nat} (hL : L.Fits m) (hx : ValidBlock m x) {v : Bool}
    (h : StoredAt m blk blk' (L.blockBitmap ((x - m.firstDataBlock) / m.blocksPerGroup))
      (bitSet (blk (L.blockBitmap ((x - m.firstDataBlock) / m.blocksPerGroup)))
        ((x - m.firstDataBlock) % m.blocksPerGroup) v)) :
    L.view m blk' =
      { L.view m blk with blockUsed := update (L.view m blk).blockUsed x v } := by
  have hrole := blockBitmap_valid hx
  have hother : ∀ r : MetaRole, r.Valid m → r ≠ .blockBitmap ((x - m.firstDataBlock) /
      m.blocksPerGroup) → blk' (L.block m r) = blk (L.block m r) :=
    fun r hr hne => StoredAt.role_other h hL hrole hr hne
  apply Ext2View.ext
  · funext y
    by_cases hyx : y = x
    · subst hyx
      have hself : blk' (L.blockBitmap ((y - m.firstDataBlock) / m.blocksPerGroup)) = _ :=
        StoredAt.role_self h hL hrole
      have hlt := Nat.mod_lt (y - m.firstDataBlock) hL.blocksPerGroup.1
      have hle := hL.blocksPerGroup.2
      simp only [update_self, Ext2Layout.view, hself]
      rw [bitTest_bitSet _ (by omega), if_pos rfl]
      simp [hx]
    · simp only [update_of_ne hyx, Ext2Layout.view]
      by_cases hy : ValidBlock m y
      · by_cases hgroup : (y - m.firstDataBlock) / m.blocksPerGroup =
            (x - m.firstDataBlock) / m.blocksPerGroup
        · have hself : blk' (L.blockBitmap ((x - m.firstDataBlock) / m.blocksPerGroup)) = _ :=
            StoredAt.role_self h hL hrole
          have hlt := Nat.mod_lt (x - m.firstDataBlock) hL.blocksPerGroup.1
          have hle := hL.blocksPerGroup.2
          have hbit : (y - m.firstDataBlock) % m.blocksPerGroup ≠
              (x - m.firstDataBlock) % m.blocksPerGroup := by
            intro hmod
            have := eq_of_div_mod hgroup hmod
            obtain ⟨hx₁, -⟩ := hx
            obtain ⟨hy₁, -⟩ := hy
            omega
          rw [hgroup, hself, bitTest_bitSet _ (by omega), if_neg hbit]
        · have := hother (.blockBitmap ((y - m.firstDataBlock) / m.blocksPerGroup))
            (blockBitmap_valid hy) (by simpa using hgroup)
          simp only [Ext2Layout.block] at this
          rw [this]
      · simp [hy]
  · exact inodeUsed_congr fun k hk => hother _ hk (by simp)
  · exact inode_congr hL fun k j hk => hother _ hk (by simp)
  · exact StoredAt.data_role hrole h

lemma StoredAt.view_inodeBit {n : Nat} (hL : L.Fits m) (hn : ValidInode m n) {v : Bool}
    (h : StoredAt m blk blk' (L.inodeBitmap ((n - 1) / m.inodesPerGroup))
      (bitSet (blk (L.inodeBitmap ((n - 1) / m.inodesPerGroup))) ((n - 1) % m.inodesPerGroup) v)) :
    L.view m blk' =
      { L.view m blk with inodeUsed := update (L.view m blk).inodeUsed n v } := by
  have hrole := inodeBitmap_valid hn
  have hother : ∀ r : MetaRole, r.Valid m → r ≠ .inodeBitmap ((n - 1) / m.inodesPerGroup) →
      blk' (L.block m r) = blk (L.block m r) :=
    fun r hr hne => StoredAt.role_other h hL hrole hr hne
  apply Ext2View.ext
  · exact blockUsed_congr fun k hk => hother _ hk (by simp)
  · funext y
    by_cases hyn : y = n
    · subst hyn
      have hself : blk' (L.inodeBitmap ((y - 1) / m.inodesPerGroup)) = _ :=
        StoredAt.role_self h hL hrole
      have hlt := Nat.mod_lt (y - 1) hL.inodesPerGroup.1
      have hle := hL.inodesPerGroup.2
      simp only [update_self, Ext2Layout.view, hself]
      rw [bitTest_bitSet _ (by omega), if_pos rfl]
      simp [hn]
    · simp only [update_of_ne hyn, Ext2Layout.view]
      by_cases hy : ValidInode m y
      · by_cases hgroup : (y - 1) / m.inodesPerGroup = (n - 1) / m.inodesPerGroup
        · have hself : blk' (L.inodeBitmap ((n - 1) / m.inodesPerGroup)) = _ :=
            StoredAt.role_self h hL hrole
          have hlt := Nat.mod_lt (n - 1) hL.inodesPerGroup.1
          have hle := hL.inodesPerGroup.2
          have hbit : (y - 1) % m.inodesPerGroup ≠ (n - 1) % m.inodesPerGroup := by
            intro hmod
            have := eq_of_div_mod hgroup hmod
            obtain ⟨hn₁, -⟩ := hn
            obtain ⟨hy₁, -⟩ := hy
            omega
          rw [hgroup, hself, bitTest_bitSet _ (by omega), if_neg hbit]
        · have := hother (.inodeBitmap ((y - 1) / m.inodesPerGroup)) (inodeBitmap_valid hy)
            (by simpa using hgroup)
          simp only [Ext2Layout.block] at this
          rw [this]
      · simp [hy]
  · exact inode_congr hL fun k j hk => hother _ hk (by simp)
  · exact StoredAt.data_role hrole h

lemma inodeOffset_le (hsize : 128 ≤ m.inodeSize ∧ m.inodeSize ∣ 1024) (n : Nat) :
    inodeOffset m n + 128 ≤ 1024 := by
  obtain ⟨h128, hdvd⟩ := hsize
  have hlt : inodeOffset m n < 1024 := Nat.mod_lt _ (by decide)
  have hoff : m.inodeSize ∣ inodeOffset m n :=
    (Nat.dvd_mod_iff hdvd).mpr (Nat.dvd_mul_left _ _)
  have hrest : m.inodeSize ∣ 1024 - inodeOffset m n := Nat.dvd_sub hdvd hoff
  have := Nat.le_of_dvd (by omega) hrest
  omega

lemma inodeOffset_apart (h128 : 128 ≤ m.inodeSize) {n n' : Nat} (hn : ValidInode m n)
    (hn' : ValidInode m n') (hne : n' ≠ n)
    (hgroup : (n' - 1) / m.inodesPerGroup = (n - 1) / m.inodesPerGroup)
    (hblock : (n' - 1) % m.inodesPerGroup * m.inodeSize / ext2BlockSize =
      (n - 1) % m.inodesPerGroup * m.inodeSize / ext2BlockSize) :
    inodeOffset m n' + 128 ≤ inodeOffset m n ∨ inodeOffset m n + 128 ≤ inodeOffset m n' := by
  have hidx : (n' - 1) % m.inodesPerGroup ≠ (n - 1) % m.inodesPerGroup := by
    intro hmod
    have := eq_of_div_mod hgroup hmod
    obtain ⟨h₁, -⟩ := hn
    obtain ⟨h₂, -⟩ := hn'
    omega
  have he := Nat.div_add_mod ((n - 1) % m.inodesPerGroup * m.inodeSize) ext2BlockSize
  have he' := Nat.div_add_mod ((n' - 1) % m.inodesPerGroup * m.inodeSize) ext2BlockSize
  rw [hblock] at he'
  unfold inodeOffset
  rcases Nat.lt_or_gt_of_ne hidx with hlt | hlt
  · have := Nat.mul_le_mul_right m.inodeSize (Nat.succ_le_of_lt hlt)
    rw [Nat.succ_mul] at this
    omega
  · have := Nat.mul_le_mul_right m.inodeSize (Nat.succ_le_of_lt hlt)
    rw [Nat.succ_mul] at this
    omega

lemma StoredAt.view_inode {n : Nat} (hL : L.Fits m) (hn : ValidInode m n) {i : Ext2Inode}
    (h : StoredAt m blk blk' (L.inodeBlock m n)
      ((blk (L.inodeBlock m n)).patch (inodeOffset m n) (i.slice 0 128))) :
    L.view m blk' = { L.view m blk with inode := update (L.view m blk).inode n i } := by
  have hrole := inodeTable_valid hL hn
  have hother : ∀ r : MetaRole, r.Valid m → r ≠ .inodeTable ((n - 1) / m.inodesPerGroup)
      ((n - 1) % m.inodesPerGroup * m.inodeSize / ext2BlockSize) →
      blk' (L.block m r) = blk (L.block m r) :=
    fun r hr hne => StoredAt.role_other h hL hrole hr hne
  have hself : blk' (L.inodeBlock m n) = _ := StoredAt.role_self h hL hrole
  have hle := inodeOffset_le hL.inodeSize n
  apply Ext2View.ext
  · exact blockUsed_congr fun k hk => hother _ hk (by simp)
  · exact inodeUsed_congr fun k hk => hother _ hk (by simp)
  · funext y
    by_cases hyn : y = n
    · subst hyn
      simp only [update_self, Ext2Layout.view, hself, if_pos hn]
      apply Bytes.ext_get
      intro k hk
      rw [Bytes.get_ofFun _ hk, Bytes.get_patch_of_mem _ _ _ _ (by simpa using hk) (by omega),
        Bytes.getElem_slice, Nat.zero_add]
    · simp only [update_of_ne hyn, Ext2Layout.view]
      by_cases hy : ValidInode m y
      · rw [if_pos hy, if_pos hy]
        by_cases hplace : (MetaRole.inodeTable ((y - 1) / m.inodesPerGroup)
            ((y - 1) % m.inodesPerGroup * m.inodeSize / ext2BlockSize)) =
            .inodeTable ((n - 1) / m.inodesPerGroup)
              ((n - 1) % m.inodesPerGroup * m.inodeSize / ext2BlockSize)
        · obtain ⟨hgroup, hblock⟩ := MetaRole.inodeTable.inj hplace
          have hsame : L.inodeBlock m y = L.inodeBlock m n := by
            unfold Ext2Layout.inodeBlock
            rw [hgroup, hblock]
          have hapart := inodeOffset_apart hL.inodeSize.1 hn hy hyn hgroup hblock
          rw [hsame, hself]
          apply Bytes.ext_get
          intro k hk
          rw [Bytes.get_ofFun _ hk, Bytes.get_ofFun _ hk]
          rcases hapart with hlt | hge
          · rw [Bytes.get_patch_of_lt _ _ (by omega)]
          · rw [Bytes.get_patch_of_ge _ _ (by rw [Bytes.length_slice]; omega)]
        · have := hother _ (inodeTable_valid hL hy) hplace
          simp only [Ext2Layout.block] at this
          unfold Ext2Layout.inodeBlock
          rw [this]
      · rw [if_neg hy, if_neg hy]
  · exact StoredAt.data_role hrole h

end

end

end NeuroSpark
