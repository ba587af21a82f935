import Mathlib.Data.List.Sigma
import Mathlib.Data.List.TakeWhile
import NeuroSpark.Lib.Records
import NeuroSpark.Ext2.Directory

/-!
# One block of a directory

A block in order is filled by its records, and what it lists is an association list of names and
inode numbers. Adding a record inserts a pair, except that the zero byte behind the new name can
fall on the inode number of the next record; removing a record erases a pair.
-/

namespace NeuroSpark

open Records

/-- Names and the inodes they stand for, in the order in which a search meets them. -/
abbrev Listing := List (Σ _ : CString, Nat)

variable {b b' : Ext2Block} {off : Nat} {s : Ext2} {name : CString} {offs : List Nat}

/-! ### Records -/

/-- The name of a record that lies within the block. -/
def recordName (b : Ext2Block) (off : Nat) : CString :=
  cString (b.slice (off + 8) (entNameLen b off))

/-- What a record stands for; a record without an inode or a name stands for nothing. -/
def recordOf (b : Ext2Block) (off : Nat) : Option (Σ _ : CString, Nat) :=
  if entInode b off ≠ 0 ∧ 0 < entNameLen b off then some ⟨recordName b off, entInode b off⟩
  else none

def blockListing (b : Ext2Block) : Listing := (dirOffsets b).filterMap (recordOf b)

/-- The records fill the block, each has room for its name, and names are not empty and contain no
slash. -/
structure BlockOk (b : Ext2Block) : Prop where
  tiles : Tiles (entRecLen b) 0 1024 (dirOffsets b)
  fits : ∀ off ∈ dirOffsets b, recordLen (entNameLen b off) ≤ entRecLen b off
  named : ∀ off ∈ dirOffsets b, entInode b off ≠ 0 →
    recordName b off ≠ [] ∧ slash ∉ recordName b off

lemma le_recordLen (n : Nat) : 8 + n ≤ recordLen n ∧ recordLen n ≤ 11 + n := by
  unfold recordLen
  omega

lemma dirOffsetsFrom_eq_visit (b : Ext2Block) (fuel off : Nat) :
    dirOffsetsFrom b fuel off = visit (entRecLen b) 8 1024 fuel off := by
  induction fuel generalizing off with
  | zero => rfl
  | succ fuel ih =>
    simp only [dirOffsetsFrom, visit, ext2BlockSize, ih]

lemma dirOffsets_eq (h : Tiles (entRecLen b) 0 1024 offs)
    (hroom : ∀ off ∈ offs, 8 ≤ entRecLen b off) : dirOffsets b = offs := by
  rw [dirOffsets, dirOffsetsFrom_eq_visit]
  exact h.visit_eq (by decide) hroom h.length_le

lemma BlockOk.of_tiles (h : Tiles (entRecLen b) 0 1024 offs)
    (hfits : ∀ off ∈ offs, recordLen (entNameLen b off) ≤ entRecLen b off)
    (hnamed : ∀ off ∈ offs, entInode b off ≠ 0 → recordName b off ≠ [] ∧ slash ∉ recordName b off) :
    BlockOk b ∧ dirOffsets b = offs := by
  have hoffs : dirOffsets b = offs := by
    apply dirOffsets_eq h
    intro off hoff
    have h₁ := hfits off hoff
    have h₂ := le_recordLen (entNameLen b off)
    omega
  exact ⟨⟨hoffs ▸ h, hoffs ▸ hfits, hoffs ▸ hnamed⟩, hoffs⟩

section

variable (h : BlockOk b) (hoff : off ∈ dirOffsets b)
include h hoff

lemma BlockOk.bounds : 8 + entNameLen b off ≤ entRecLen b off ∧ off + entRecLen b off ≤ 1024 := by
  have h₁ := h.fits off hoff
  have h₂ := le_recordLen (entNameLen b off)
  have h₃ := (h.tiles.bounds hoff).2.2
  omega

omit h hoff in
lemma entName_eq_recordName (h : off + 8 + entNameLen b off ≤ 1024) (s : Ext2) :
    entName s b off = recordName b off := by
  rw [entName, recordName, Bytes.slice]
  congr 1
  apply List.map_congr_left
  intro k hk
  rw [List.mem_range] at hk
  rw [Ext2.bufferGet, if_pos (by omega)]

lemma BlockOk.entName_eq (s : Ext2) : entName s b off = recordName b off := by
  have := h.bounds hoff
  exact entName_eq_recordName (by omega) s

lemma BlockOk.nameLen_pos (hi : entInode b off ≠ 0) : 0 < entNameLen b off := by
  apply Nat.pos_of_ne_zero
  intro h0
  apply (h.named off hoff hi).1
  rw [recordName, h0]
  rfl

lemma BlockOk.recordOf_eq : recordOf b off =
      if entInode b off ≠ 0 then some ⟨recordName b off, entInode b off⟩ else none := by
  unfold recordOf
  by_cases hi : entInode b off = 0
  · rw [if_neg fun h => h.1 hi, if_neg fun h => h hi]
  · rw [if_pos ⟨hi, h.nameLen_pos hoff hi⟩, if_pos hi]

end

lemma record_rest (h : ∀ k, off + 6 ≤ k → k < off + 8 + entNameLen b off → b'.get k = b.get k) :
    entNameLen b' off = entNameLen b off ∧ recordName b' off = recordName b off := by
  have hlen : entNameLen b' off = entNameLen b off := by
    rw [entNameLen, entNameLen, h _ (by omega) (by omega)]
  refine ⟨hlen, ?_⟩
  rw [recordName, recordName, hlen]
  congr 1
  exact Bytes.slice_congr fun k hk hk' => h k (by omega) (by omega)

lemma record_congr (h : ∀ k, off ≤ k → k < off + 8 + entNameLen b off → b'.get k = b.get k) :
    entInode b' off = entInode b off ∧ entRecLen b' off = entRecLen b off ∧
      entNameLen b' off = entNameLen b off ∧ recordName b' off = recordName b off := by
  refine ⟨?_, ?_, record_rest fun k hk hk' => h k (by omega) hk'⟩
  · exact Bytes.le32_congr fun k hk => h _ (by omega) (by omega)
  · exact Bytes.le16_congr fun k hk => h _ (by omega) (by omega)

lemma recordOf_congr (hi : entInode b' off = entInode b off)
    (hlen : entNameLen b' off = entNameLen b off) (hname : recordName b' off = recordName b off) :
    recordOf b' off = recordOf b off := by
  simp only [recordOf, hi, hlen, hname]

lemma find_eq_dlookup (hname : ∀ off ∈ offs, entName s b off = recordName b off) :
    (offs.find? fun off => entInode b off ≠ 0 && 0 < entNameLen b off &&
        entName s b off = name).map (entInode b) =
      (offs.filterMap (recordOf b)).dlookup name := by
  induction offs with
  | nil => rfl
  | cons off offs ih =>
    have ih := ih fun x hx => hname x (List.mem_cons_of_mem _ hx)
    have hoff := hname off (List.mem_cons_self ..)
    by_cases hlive : entInode b off ≠ 0 ∧ 0 < entNameLen b off
    · have hrec : recordOf b off = some ⟨recordName b off, entInode b off⟩ := if_pos hlive
      rw [List.filterMap_cons_some hrec]
      by_cases heq : recordName b off = name
      · subst heq
        rw [List.find?_cons_of_pos (by simp [hlive, hoff]), List.dlookup_cons_eq]
        rfl
      · rw [List.find?_cons_of_neg (by simp [hoff, heq]), List.dlookup_cons_ne _ _ (Ne.symm heq), ih]
    · have hrec : recordOf b off = none := if_neg hlive
      rw [List.filterMap_cons_none hrec, List.find?_cons_of_neg, ih]
      simp only [Bool.and_eq_true, decide_eq_true_eq, not_and]
      intro hl
      exact absurd hl hlive

lemma BlockOk.findEntry_eq (h : BlockOk b) (s : Ext2) (name : CString) :
    (findEntry s b name).map (entInode b) = (blockListing b).dlookup name :=
  find_eq_dlookup fun _ hoff => h.entName_eq hoff s

/-! ### Storing a record -/

section

variable {n recLen fileType : Nat}

lemma get_putEntry_of_lt {k : Nat} (hk : k < off) :
    (putEntry b off n recLen fileType name).get k = b.get k := by
  simp only [putEntry]
  rw [Bytes.get_patch_of_lt _ _ (by omega), Bytes.get_patch_of_lt _ _ (by omega), Bytes.setLe16,
    Bytes.get_patch_of_lt _ _ (by omega), Bytes.setLe32, Bytes.get_patch_of_lt _ _ hk]

lemma get_putEntry_of_ge {k : Nat} (hk : off + 9 + name.length ≤ k) :
    (putEntry b off n recLen fileType name).get k = b.get k := by
  simp only [putEntry]
  rw [Bytes.get_patch_of_ge _ _ (by simp; omega), Bytes.get_patch_of_ge _ _ (by simp; omega),
    Bytes.setLe16, Bytes.get_patch_of_ge _ _ (by simp; omega), Bytes.setLe32,
    Bytes.get_patch_of_ge _ _ (by simp; omega)]

lemma get_putEntry_nul (h : off + 8 + name.length < 1024) :
    (putEntry b off n recLen fileType name).get (off + 8 + name.length) = 0 := by
  simp only [putEntry]
  rw [Bytes.get_patch_of_mem _ (off + 8) name.length _ (by simp) h]
  simp

lemma entInode_putEntry (hoff : off + 4 ≤ 1024) (hn : n < 4294967296) :
    entInode (putEntry b off n recLen fileType name) off = n := by
  have h : entInode (putEntry b off n recLen fileType name) off =
      (b.setLe32 off n).le32 off := by
    apply Bytes.le32_congr
    intro k hk
    simp only [putEntry]
    rw [Bytes.get_patch_of_lt _ _ (by omega), Bytes.get_patch_of_lt _ _ (by omega),
      Bytes.setLe16, Bytes.get_patch_of_lt _ _ (by omega)]
  rw [h, Bytes.le32_setLe32_same _ _ hoff, Nat.mod_eq_of_lt hn]

lemma entRecLen_putEntry (hoff : off + 6 ≤ 1024) (hlen : recLen < 65536) :
    entRecLen (putEntry b off n recLen fileType name) off = recLen := by
  have h : entRecLen (putEntry b off n recLen fileType name) off =
      ((b.setLe32 off n).setLe16 (off + 4) recLen).le16 (off + 4) := by
    apply Bytes.le16_congr
    intro k hk
    simp only [putEntry]
    rw [Bytes.get_patch_of_lt _ _ (by omega), Bytes.get_patch_of_lt _ _ (by omega)]
  rw [h, Bytes.le16_setLe16_same _ _ (by omega), Nat.mod_eq_of_lt hlen]

lemma entNameLen_putEntry (hoff : off + 8 ≤ 1024) (hlen : name.length < 256) :
    entNameLen (putEntry b off n recLen fileType name) off = name.length := by
  simp only [entNameLen, putEntry]
  rw [Bytes.get_patch_of_lt _ _ (by omega)]
  have h := Bytes.get_patch_of_mem ((b.setLe32 off n).setLe16 (off + 4) recLen) (off + 6) 0
    [UInt8.ofNat name.length, UInt8.ofNat fileType] (by simp) (by omega)
  rw [h, List.getElem_cons_zero, UInt8.toNat_ofNat_of_lt' hlen]

lemma cString_eq_self (h : (0 : UInt8) ∉ name) : cString name = name := by
  rw [cString, List.takeWhile_eq_self_iff]
  intro c hc
  rw [decide_eq_true_eq]
  rintro rfl
  exact h hc

lemma recordName_putEntry (hoff : off + 8 + name.length ≤ 1024) (hlen : name.length < 256)
    (hname : (0 : UInt8) ∉ name) :
    recordName (putEntry b off n recLen fileType name) off = name := by
  have hslice : (putEntry b off n recLen fileType name).slice (off + 8) name.length = name := by
    apply List.ext_getElem (Bytes.length_slice _ _ _)
    intro k hk hk'
    simp only [Bytes.getElem_slice, putEntry]
    rw [Bytes.get_patch_of_mem _ _ _ _ (by simp; omega) (by omega), List.getElem_append_left hk']
  rw [recordName, entNameLen_putEntry (by omega) hlen, hslice, cString_eq_self hname]

end

/-- A name as the driver takes it from a path. -/
structure GoodName (name : CString) : Prop where
  ne_nil : name ≠ []
  length : name.length < 256
  nul : (0 : UInt8) ∉ name
  slash : NeuroSpark.slash ∉ name

lemma BlockOk.goodName (hb : BlockOk b) (hoff : off ∈ dirOffsets b)
    (hi : entInode b off ≠ 0) : GoodName (recordName b off) := by
  obtain ⟨hne, hslash⟩ := hb.named off hoff hi
  refine ⟨hne, ?_, ?_, hslash⟩
  · have hlen := entNameLen_lt b off
    have hle := (List.takeWhile_sublist (fun c : UInt8 => decide (c ≠ 0))
      (l := b.slice (off + 8) (entNameLen b off))).length_le
    rw [Bytes.length_slice] at hle
    exact Nat.lt_of_le_of_lt hle hlen
  · intro h
    have := List.mem_takeWhile_imp h
    simp at this

lemma BlockOk.goodName_of_mem (hb : BlockOk b) {e : Σ _ : CString, Nat}
    (he : e ∈ blockListing b) : GoodName e.1 := by
  obtain ⟨off, hoff, hrec⟩ := List.mem_filterMap.mp he
  rw [hb.recordOf_eq hoff] at hrec
  split_ifs at hrec with hi
  cases hrec
  exact hb.goodName hoff hi

lemma GoodName.recordOf_putEntry (h : GoodName name) {n : Nat} (hn : n < 4294967296) (hn0 : n ≠ 0)
    (recLen fileType : Nat) (hoff : off + 8 + name.length ≤ 1024) :
    recordOf (putEntry b off n recLen fileType name) off = some ⟨name, n⟩ := by
  have hpos := List.length_pos_iff.mpr h.ne_nil
  rw [recordOf, entInode_putEntry (by omega) hn, entNameLen_putEntry (by omega) h.length,
    recordName_putEntry hoff h.length h.nul, if_pos ⟨hn0, hpos⟩]

/-! ### Splitting a record -/

/-- The new record fills the space behind an old one to the last byte, and the zero byte behind its
name changes the inode number of the next record. -/
def Clobbers (b : Ext2Block) (off : Nat) (name : CString) : Prop :=
  name.length % 4 = 0 ∧
    entRecLen b off = recordLen (entNameLen b off) + recordLen name.length ∧
    off + entRecLen b off < 1024 ∧ entInode b (off + entRecLen b off) % 256 ≠ 0

instance (b : Ext2Block) (off : Nat) (name : CString) : Decidable (Clobbers b off name) :=
  inferInstanceAs (Decidable (_ ∧ _))

lemma BlockOk.hasRoom_iff (h : BlockOk b) (hoff : off ∈ dirOffsets b) {nameLen : Nat} :
    hasRoom b nameLen off = true ↔ entInode b off ≠ 0 ∧
      recordLen (entNameLen b off) + recordLen nameLen ≤ entRecLen b off := by
  have h₁ := h.fits off hoff
  have h₂ := (h.bounds hoff).2
  have hspace : (entRecLen b off + 65536 - recordLen (entNameLen b off)) % 65536 =
      entRecLen b off - recordLen (entNameLen b off) := by omega
  simp only [hasRoom, hspace, Bool.and_eq_true, decide_eq_true_eq, ext2BlockSize]
  constructor
  · rintro ⟨⟨hi, -⟩, hroom⟩
    exact ⟨hi, by omega⟩
  · rintro ⟨hi, hroom⟩
    exact ⟨⟨hi, decide_eq_true h₂⟩, by omega⟩

/-- What the bytes of a block are after a record was split. -/
structure IsSplit (b b' : Ext2Block) (off n : Nat) (name : CString) : Prop where
  before : ∀ k, k < off → b'.get k = b.get k
  head : ∀ k, off ≤ k → k < off + recordLen (entNameLen b off) → k ≠ off + 4 → k ≠ off + 5 →
    b'.get k = b.get k
  recLen : entRecLen b' off = recordLen (entNameLen b off)
  new : recordOf b' (off + recordLen (entNameLen b off)) = some ⟨name, n⟩
  newRecLen : entRecLen b' (off + recordLen (entNameLen b off)) =
    entRecLen b off - recordLen (entNameLen b off)
  newNameLen : entNameLen b' (off + recordLen (entNameLen b off)) = name.length
  newName : recordName b' (off + recordLen (entNameLen b off)) = name
  after : ∀ k, off + entRecLen b off < k → b'.get k = b.get k
  next : b'.get (off + entRecLen b off) =
    if recordLen (entNameLen b off) + 8 + name.length = entRecLen b off then 0
    else b.get (off + entRecLen b off)

section

variable {n fileType : Nat}

lemma get_splitEntry {k : Nat} (hk : k < off + recordLen (entNameLen b off))
    (hne : k < off + 4 ∨ off + 6 ≤ k) : (splitEntry b off n fileType name).get k = b.get k := by
  simp only [splitEntry]
  rw [get_putEntry_of_lt hk, Bytes.get_setLe16 _ _ hne]

lemma entRecLen_splitEntry (hoff : off + 8 ≤ 1024) :
    entRecLen (splitEntry b off n fileType name) off = recordLen (entNameLen b off) := by
  have hle := le_recordLen (entNameLen b off)
  have hlt := entNameLen_lt b off
  have hre : entRecLen (splitEntry b off n fileType name) off =
      (b.setLe16 (off + 4) (recordLen (entNameLen b off))).le16 (off + 4) :=
    Bytes.le16_congr fun k hk => get_putEntry_of_lt (by omega)
  rw [hre, Bytes.le16_setLe16_same _ _ (by omega), Nat.mod_eq_of_lt (by omega)]

end

lemma BlockOk.isSplit (h : BlockOk b) (hoff : off ∈ dirOffsets b) (hname : GoodName name)
    (hroom : hasRoom b name.length off = true) {n : Nat} (hn : n < 4294967296) (hn0 : n ≠ 0)
    (fileType : Nat) :
    IsSplit b (splitEntry b off n fileType name) off n name := by
  have h₁ := h.fits off hoff
  have h₂ := (h.bounds hoff).2
  have hspace : (entRecLen b off + 65536 - recordLen (entNameLen b off)) % 65536 =
      entRecLen b off - recordLen (entNameLen b off) := by omega
  obtain ⟨-, hroom⟩ := (h.hasRoom_iff hoff).mp hroom
  have hlen := hname.length
  have h₃ := le_recordLen (entNameLen b off)
  have h₄ := le_recordLen name.length
  have h₅ := entNameLen_lt b off
  have hlenOff := (h.bounds hoff).1
  have hhead : ∀ k, k < off + recordLen (entNameLen b off) → k ≠ off + 4 → k ≠ off + 5 →
      (splitEntry b off n fileType name).get k = b.get k :=
    fun k hk h4 h5 => get_splitEntry hk (by omega)
  have hend : ∀ k, off + recordLen (entNameLen b off) + 9 + name.length ≤ k →
      (splitEntry b off n fileType name).get k = b.get k := by
    intro k hk
    simp only [splitEntry]
    rw [get_putEntry_of_ge hk, Bytes.get_setLe16 _ _ (by omega)]
  refine ⟨fun k hk => hhead k (by omega) (by omega) (by omega), fun k _ hk => hhead k hk,
    entRecLen_splitEntry (by omega), ?_, ?_, ?_, ?_, fun k hk => hend k (by omega), ?_⟩ <;>
    simp only [splitEntry, hspace] at hend ⊢
  · exact hname.recordOf_putEntry hn hn0 _ _ (by omega)
  · exact entRecLen_putEntry (by omega) (by omega)
  · exact entNameLen_putEntry (by omega) hlen
  · exact recordName_putEntry (by omega) hlen hname.nul
  · split_ifs with hexact
    · by_cases hlt : off + entRecLen b off < 1024
      · have hk : off + entRecLen b off = off + recordLen (entNameLen b off) + 8 + name.length := by
          omega
        rw [hk]
        exact get_putEntry_nul (by omega)
      · exact dif_neg hlt
    · exact hend _ (by omega)

lemma BlockOk.mem_before {l m : List Nat} {x : Nat} (hb : BlockOk b)
    (hoffs : dirOffsets b = l ++ off :: m) (hx : x ∈ l) :
    x ∈ dirOffsets b ∧ x + entRecLen b x ≤ off :=
  ⟨hoffs ▸ List.mem_append_left _ hx, ((hoffs ▸ hb.tiles).cut.1.bounds hx).2.2⟩

lemma BlockOk.mem_after {l m : List Nat} {x : Nat} (hb : BlockOk b)
    (hoffs : dirOffsets b = l ++ off :: m) (hx : x ∈ m) :
    x ∈ dirOffsets b ∧ off + entRecLen b off ≤ x :=
  ⟨hoffs ▸ List.mem_append_right _ (List.mem_cons_of_mem _ hx),
    ((hoffs ▸ hb.tiles).cut.2.2.bounds hx).1⟩

namespace IsSplit

variable {n : Nat} {l m : List Nat} {x : Nat}

section

variable (h : IsSplit b b' off n name)
include h

lemma record_before (hb : BlockOk b) (hx : x ∈ dirOffsets b) (hle : x + entRecLen b x ≤ off) :
    entInode b' x = entInode b x ∧ entRecLen b' x = entRecLen b x ∧
      entNameLen b' x = entNameLen b x ∧ recordName b' x = recordName b x := by
  have hbounds := hb.bounds hx
  exact record_congr fun k _ hk => h.before k (by omega)

lemma record_after (hlt : off + entRecLen b off < x) :
    entInode b' x = entInode b x ∧ entRecLen b' x = entRecLen b x ∧
      entNameLen b' x = entNameLen b x ∧ recordName b' x = recordName b x :=
  record_congr fun k hk _ => h.after k (by omega)

lemma record_self : entInode b' off = entInode b off ∧ entNameLen b' off = entNameLen b off ∧
      recordName b' off = recordName b off := by
  have hle := le_recordLen (entNameLen b off)
  refine ⟨Bytes.le32_congr fun k hk => ?_, record_rest fun k hk hk' => ?_⟩
  · exact h.head _ (by omega) (by omega) (by omega) (by omega)
  · exact h.head _ (by omega) (by omega) (by omega) (by omega)

lemma record_next (hx : x = off + entRecLen b off) :
    entRecLen b' x = entRecLen b x ∧ entNameLen b' x = entNameLen b x ∧
      recordName b' x = recordName b x := by
  subst hx
  exact ⟨Bytes.le16_congr fun k hk => h.after _ (by omega),
    record_rest fun k hk _ => h.after k (by omega)⟩

omit h in
lemma le32_eq (b : Ext2Block) (x : Nat) :
    b.le32 x = (b.get x).toNat + 256 * ((b.get (x + 1)).toNat +
    256 * ((b.get (x + 2)).toNat + 256 * (b.get (x + 3)).toNat)) := by
  simp [Bytes.le32, Bytes.slice, Le.value, List.range_succ]

/-- The record behind the new one loses the low byte of its inode number if the zero byte falls on
it. -/
lemma inode_next (hx : x = off + entRecLen b off) : entInode b' x =
      if recordLen (entNameLen b off) + 8 + name.length = entRecLen b off then
        entInode b x / 256 * 256
      else entInode b x := by
  have h₁ : b'.get (x + 1) = b.get (x + 1) := h.after _ (by omega)
  have h₂ : b'.get (x + 2) = b.get (x + 2) := h.after _ (by omega)
  have h₃ : b'.get (x + 3) = b.get (x + 3) := h.after _ (by omega)
  have h₀ := h.next
  rw [← hx] at h₀
  have hlow : (b.get x).toNat < 256 := UInt8.toNat_lt _
  rw [entInode, entInode, le32_eq, le32_eq, h₁, h₂, h₃, h₀]
  split_ifs
  · rw [UInt8.toNat_zero]
    omega
  · rfl

end

section

variable (h : IsSplit b b' off n name) (hb : BlockOk b) (hoffs : dirOffsets b = l ++ off :: m)
include h hb hoffs

lemma record_mem (hx : x ∈ l ∨ x ∈ m) : entRecLen b' x = entRecLen b x ∧
    entNameLen b' x = entNameLen b x ∧ recordName b' x = recordName b x := by
  rcases hx with hx | hx
  · obtain ⟨hmem, hle⟩ := hb.mem_before hoffs hx
    exact (h.record_before hb hmem hle).2
  · obtain ⟨-, hle⟩ := hb.mem_after hoffs hx
    rcases Nat.eq_or_lt_of_le hle with heq | hlt
    · exact h.record_next heq.symm
    · exact (h.record_after hlt).2

lemma inode_mem (hx : x ∈ l ∨ x ∈ m) (hne : entInode b' x ≠ 0) : entInode b x ≠ 0 := by
  rcases hx with hx | hx
  · obtain ⟨hmem, hle⟩ := hb.mem_before hoffs hx
    rwa [(h.record_before hb hmem hle).1] at hne
  · obtain ⟨-, hle⟩ := hb.mem_after hoffs hx
    rcases Nat.eq_or_lt_of_le hle with heq | hlt
    · rw [h.inode_next heq.symm] at hne
      split_ifs at hne with hexact
      · intro h0
        rw [h0] at hne
        exact hne rfl
      · exact hne
    · rwa [(h.record_after hlt).1] at hne

lemma blockOk (hname : GoodName name) (hroom : hasRoom b name.length off = true) :
    BlockOk b' ∧ dirOffsets b' = l ++ off :: (off + recordLen (entNameLen b off)) :: m := by
  have hoff : off ∈ dirOffsets b := hoffs ▸ List.mem_append_right _ (List.mem_cons_self ..)
  obtain ⟨hlive, hspace⟩ := (hb.hasRoom_iff hoff).mp hroom
  have h₁ := le_recordLen (entNameLen b off)
  have h₂ := le_recordLen name.length
  obtain ⟨hself, hselfLen, hselfName⟩ := h.record_self
  apply BlockOk.of_tiles
  · have htiles : Tiles (entRecLen b) 0 1024 (l ++ off :: m) := hoffs ▸ hb.tiles
    refine htiles.split (by omega) (by omega) (fun y hy => ?_) h.recLen h.newRecLen
    exact (h.record_mem hb hoffs hy).1
  · intro x hx
    simp only [List.mem_append, List.mem_cons] at hx
    rcases hx with hx | rfl | rfl | hx
    · obtain ⟨hrec, hlen, -⟩ := h.record_mem hb hoffs (Or.inl hx)
      rw [hrec, hlen]
      exact hb.fits x (hb.mem_before hoffs hx).1
    · rw [hselfLen, h.recLen]
    · rw [h.newNameLen, h.newRecLen]
      omega
    · obtain ⟨hrec, hlen, -⟩ := h.record_mem hb hoffs (Or.inr hx)
      rw [hrec, hlen]
      exact hb.fits x (hb.mem_after hoffs hx).1
  · intro x hx hne
    simp only [List.mem_append, List.mem_cons] at hx
    rcases hx with hx | rfl | rfl | hx
    · rw [(h.record_mem hb hoffs (Or.inl hx)).2.2]
      exact hb.named x (hb.mem_before hoffs hx).1 (h.inode_mem hb hoffs (Or.inl hx) hne)
    · rw [hselfName]
      exact hb.named _ hoff hlive
    · rw [h.newName]
      exact ⟨hname.ne_nil, hname.slash⟩
    · rw [(h.record_mem hb hoffs (Or.inr hx)).2.2]
      exact hb.named x (hb.mem_after hoffs hx).1 (h.inode_mem hb hoffs (Or.inr hx) hne)

lemma listing_front : l.filterMap (recordOf b') = l.filterMap (recordOf b) ∧
    recordOf b' off = recordOf b off := by
  constructor
  · apply List.filterMap_congr
    intro x hx
    obtain ⟨hmem, hle⟩ := hb.mem_before hoffs hx
    obtain ⟨hi, -, hlen, hn⟩ := h.record_before hb hmem hle
    exact recordOf_congr hi hlen hn
  · obtain ⟨hi, hlen, hn⟩ := h.record_self
    exact recordOf_congr hi hlen hn

lemma listing_back (hroom : hasRoom b name.length off = true) (hclob : ¬ Clobbers b off name) :
    m.filterMap (recordOf b') = m.filterMap (recordOf b) := by
  have hoff : off ∈ dirOffsets b := hoffs ▸ List.mem_append_right _ (List.mem_cons_self ..)
  obtain ⟨-, hspace⟩ := (hb.hasRoom_iff hoff).mp hroom
  apply List.filterMap_congr
  intro x hx
  obtain ⟨hmem, hle⟩ := hb.mem_after hoffs hx
  rcases Nat.eq_or_lt_of_le hle with rfl | hlt
  · obtain ⟨-, hlen, hn⟩ := h.record_next rfl
    refine recordOf_congr ?_ hlen hn
    rw [h.inode_next rfl]
    split_ifs with hexact
    · have hin := (hb.bounds hmem).2
      have hpos := (hb.bounds hmem).1
      have hmod : entInode b (off + entRecLen b off) % 256 = 0 := by
        by_contra hne
        unfold recordLen at hexact hspace
        refine hclob ⟨by omega, ?_, by omega, hne⟩
        unfold recordLen
        omega
      omega
    · rfl
  · obtain ⟨hi, -, hlen, hn⟩ := h.record_after hlt
    exact recordOf_congr hi hlen hn

end

end IsSplit

section

variable (hb : BlockOk b) (hoff : off ∈ dirOffsets b) (hname : GoodName name)
  (hroom : hasRoom b name.length off = true) {n : Nat} (hn : n < 4294967296) (hn0 : n ≠ 0)
  (fileType : Nat)
include hb hoff hname hroom hn hn0

lemma BlockOk.splitEntry_blockOk : BlockOk (splitEntry b off n fileType name) := by
  obtain ⟨l, m, hoffs⟩ := List.append_of_mem hoff
  have h := hb.isSplit hoff hname hroom hn hn0 fileType
  exact (h.blockOk hb hoffs hname hroom).1

/-- Where no zero byte falls on the next record, splitting a record inserts a pair. -/
theorem BlockOk.splitEntry_listing (hclob : ¬ Clobbers b off name) :
    ∃ A B : Listing, blockListing b = A ++ B ∧
      blockListing (splitEntry b off n fileType name) = A ++ ⟨name, n⟩ :: B := by
  obtain ⟨l, m, hoffs⟩ := List.append_of_mem hoff
  have h := hb.isSplit hoff hname hroom hn hn0 fileType
  obtain ⟨hfront, hself⟩ := h.listing_front hb hoffs
  have hback := h.listing_back hb hoffs hroom hclob
  refine ⟨(l ++ [off]).filterMap (recordOf b), m.filterMap (recordOf b), ?_, ?_⟩
  · rw [blockListing, hoffs, ← List.filterMap_append]
    simp
  · rw [blockListing, (h.blockOk hb hoffs hname hroom).2, ← hback]
    simp only [List.filterMap_append, hfront, List.filterMap_cons, List.filterMap_nil, hself, h.new]
    cases recordOf b off <;> simp

/-- Where the zero byte falls on the next record, that record loses the low byte of its inode
number, and is lost itself if nothing is left. -/
theorem BlockOk.splitEntry_clobbers (hclob : Clobbers b off name) :
    ∃ A B : Listing,
      blockListing b = A ++ ⟨recordName b (off + entRecLen b off),
        entInode b (off + entRecLen b off)⟩ :: B ∧
      blockListing (splitEntry b off n fileType name) = A ++ ⟨name, n⟩ ::
        ((if entInode b (off + entRecLen b off) / 256 * 256 = 0 then []
          else [⟨recordName b (off + entRecLen b off),
            entInode b (off + entRecLen b off) / 256 * 256⟩]) ++ B) := by
  obtain ⟨l, m, hoffs⟩ := List.append_of_mem hoff
  have h := hb.isSplit hoff hname hroom hn hn0 fileType
  obtain ⟨hfront, hself⟩ := h.listing_front hb hoffs
  obtain ⟨hok, hoffs'⟩ := h.blockOk hb hoffs hname hroom
  obtain ⟨hmod, hexact, hlt, hlow⟩ := hclob
  have hexact' : recordLen (entNameLen b off) + 8 + name.length = entRecLen b off := by
    unfold recordLen at hexact ⊢
    omega
  -- the next record heads the rest of the chain
  obtain ⟨-, -, hrest⟩ := (hoffs ▸ hb.tiles : Tiles (entRecLen b) 0 1024 (l ++ off :: m)).cut
  cases m with
  | nil =>
    have hend : off + entRecLen b off = 1024 := hrest
    omega
  | cons x m =>
    obtain ⟨rfl, hpos, htail⟩ := hrest
    have hx : off + entRecLen b off ∈ dirOffsets b := by
      rw [hoffs]
      simp
    have hx' : off + entRecLen b off ∈ dirOffsets (splitEntry b off n fileType name) := by
      rw [hoffs']
      simp
    have hm : m.filterMap (recordOf (splitEntry b off n fileType name)) =
        m.filterMap (recordOf b) := by
      apply List.filterMap_congr
      intro y hy
      have hle := (htail.bounds hy).1
      obtain ⟨hi, -, hlen, hn⟩ := h.record_after (x := y) (by omega)
      exact recordOf_congr hi hlen hn
    obtain ⟨-, -, hnextName⟩ := h.record_next rfl
    have hnext := h.inode_next rfl
    rw [if_pos hexact'] at hnext
    have hold : recordOf b (off + entRecLen b off) = some ⟨recordName b (off + entRecLen b off),
        entInode b (off + entRecLen b off)⟩ := by
      rw [hb.recordOf_eq hx, if_pos]
      intro h0
      rw [h0] at hlow
      exact hlow rfl
    refine ⟨(l ++ [off]).filterMap (recordOf b), m.filterMap (recordOf b), ?_, ?_⟩
    · rw [blockListing, hoffs, ← List.filterMap_cons_some hold, ← List.filterMap_append]
      simp
    · rw [blockListing, hoffs', ← hm]
      simp only [List.filterMap_append, hfront, List.filterMap_cons, List.filterMap_nil, hself,
        h.new, hok.recordOf_eq hx', hnext, hnextName]
      by_cases h0 : entInode b (off + entRecLen b off) / 256 * 256 = 0
      · simp only [h0, ne_eq, not_true_eq_false, if_false, if_true]
        cases recordOf b off <;> simp
      · simp only [h0, ne_eq, not_false_eq_true, if_false, if_true]
        cases recordOf b off <;> simp

end

lemma GoodName.freshBlock (h : GoodName name) {n : Nat} (hn : n < 4294967296) (hn0 : n ≠ 0)
    (fileType : Nat) :
    BlockOk (putEntry Bytes.zero 0 n ext2BlockSize fileType name) ∧
      blockListing (putEntry Bytes.zero 0 n ext2BlockSize fileType name) = [⟨name, n⟩] := by
  have hlen := h.length
  have hle := le_recordLen name.length
  have hrec : entRecLen (putEntry Bytes.zero 0 n ext2BlockSize fileType name) 0 = 1024 :=
    entRecLen_putEntry (by decide) (by decide)
  obtain ⟨hok, hoffs⟩ : BlockOk (putEntry Bytes.zero 0 n ext2BlockSize fileType name) ∧
      dirOffsets (putEntry Bytes.zero 0 n ext2BlockSize fileType name) = [0] := by
    apply BlockOk.of_tiles
    · exact ⟨rfl, by rw [hrec]; decide, by rw [hrec]; rfl⟩
    · intro off hoff
      obtain rfl := List.mem_singleton.mp hoff
      rw [hrec, entNameLen_putEntry (by decide) hlen]
      omega
    · intro off hoff _
      obtain rfl := List.mem_singleton.mp hoff
      rw [recordName_putEntry (by omega) hlen h.nul]
      exact ⟨h.ne_nil, h.slash⟩
  refine ⟨hok, ?_⟩
  rw [blockListing, hoffs, List.filterMap_cons_some (h.recordOf_putEntry hn hn0 _ _ (by omega)),
    List.filterMap_nil]

/-! ### Removing a record -/

lemma findEntryPrev_eq_some {prev p : Option Nat} {offs : List Nat}
    (h : findEntryPrev s b name prev offs = some (p, off)) :
    ∃ l m, offs = l ++ off :: m ∧ (entInode b off ≠ 0 ∧ entName s b off = name) ∧
      (∀ x ∈ l, ¬ (entInode b x ≠ 0 ∧ entName s b x = name)) ∧ p = l.getLast?.or prev := by
  induction offs generalizing prev with
  | nil => cases h
  | cons x offs ih =>
    rw [findEntryPrev] at h
    split_ifs at h with hx
    · obtain ⟨rfl, rfl⟩ : prev = p ∧ x = off := by simpa using h
      exact ⟨[], offs, rfl, hx, fun y hy => (List.not_mem_nil hy).elim, rfl⟩
    · obtain ⟨l, m, rfl, hoff, hl, rfl⟩ := ih h
      refine ⟨x :: l, m, rfl, hoff, fun y hy => ?_, ?_⟩
      · rcases List.mem_cons.mp hy with rfl | hy
        · exact hx
        · exact hl y hy
      · cases l with
        | nil => rfl
        | cons y l =>
          rw [List.getLast?_cons_cons]
          cases hlast : (y :: l).getLast? with
          | none => simp at hlast
          | some z => rfl

lemma findEntryPrev_eq_none {prev : Option Nat} {offs : List Nat}
    (h : findEntryPrev s b name prev offs = none) :
    ∀ x ∈ offs, ¬ (entInode b x ≠ 0 ∧ entName s b x = name) := by
  induction offs generalizing prev with
  | nil => exact fun x hx => by cases hx
  | cons y offs ih =>
    rw [findEntryPrev] at h
    split_ifs at h with hy
    intro x hx
    rcases List.mem_cons.mp hx with rfl | hx
    · exact hy
    · exact ih h x hx

lemma BlockOk.notMem_keys (hb : BlockOk b) {l : List Nat} (hl : ∀ x ∈ l, x ∈ dirOffsets b)
    (h : ∀ x ∈ l, ¬ (entInode b x ≠ 0 ∧ entName s b x = name)) :
    name ∉ (l.filterMap (recordOf b)).keys := by
  rw [List.mem_keys]
  rintro ⟨i, hi⟩
  obtain ⟨x, hx, hrec⟩ := List.mem_filterMap.mp hi
  rw [hb.recordOf_eq (hl x hx)] at hrec
  split_ifs at hrec with hlive
  refine h x hx ⟨hlive, ?_⟩
  rw [hb.entName_eq (hl x hx)]
  cases hrec
  rfl

lemma BlockOk.apart {x : Nat} (hb : BlockOk b) (hoff : off ∈ dirOffsets b) (hx : x ∈ dirOffsets b)
    (hne : x ≠ off) : x + entRecLen b x ≤ off ∨ off + entRecLen b off ≤ x := by
  obtain ⟨l, m, hoffs⟩ := List.append_of_mem hoff
  rw [hoffs, List.mem_append, List.mem_cons] at hx
  rcases hx with hx | hx | hx
  · exact Or.inl (hb.mem_before hoffs hx).2
  · exact absurd hx hne
  · exact Or.inr (hb.mem_after hoffs hx).2

lemma BlockOk.record_other {x : Nat} (hb : BlockOk b) (hoff : off ∈ dirOffsets b)
    (hx : x ∈ dirOffsets b) (hne : x ≠ off) (h : ∀ k, k < off ∨ off + 8 ≤ k → b'.get k = b.get k) :
    entInode b' x = entInode b x ∧ entRecLen b' x = entRecLen b x ∧
      entNameLen b' x = entNameLen b x ∧ recordName b' x = recordName b x := by
  have h₁ := hb.bounds hoff
  have h₂ := hb.bounds hx
  have hapart := hb.apart hoff hx hne
  exact record_congr fun k hk hk' => h k (by omega)

/-- The first record of a block stays without an inode. -/
lemma BlockOk.clear_listing {m : List Nat} (hb : BlockOk b) (hoffs : dirOffsets b = off :: m) :
    BlockOk (b.setLe32 off 0) ∧ blockListing (b.setLe32 off 0) = m.filterMap (recordOf b) := by
  have hoff : off ∈ dirOffsets b := hoffs ▸ List.mem_cons_self ..
  have hbound := hb.bounds hoff
  have hzero : entInode (b.setLe32 off 0) off = 0 := Bytes.le32_setLe32_same _ _ (by omega)
  have hget : ∀ k, k < off ∨ off + 4 ≤ k → Bytes.get (b.setLe32 off 0) k = b.get k :=
    fun k hk => Bytes.get_setLe32 _ _ hk
  generalize b.setLe32 off 0 = b' at hzero hget ⊢
  have hother := fun x hx hne =>
    hb.record_other (x := x) hoff hx hne fun k hk => hget k (by omega)
  have hsame : ∀ x ∈ dirOffsets b, entRecLen b' x = entRecLen b x ∧
      entNameLen b' x = entNameLen b x ∧ recordName b' x = recordName b x := by
    intro x hx
    by_cases hne : x = off
    · rw [hne]
      exact ⟨Bytes.le16_congr fun k hk => hget _ (by omega),
        record_rest fun k hk _ => hget k (by omega)⟩
    · exact (hother x hx hne).2
  obtain ⟨hok, hoffs'⟩ : BlockOk b' ∧ dirOffsets b' = dirOffsets b := by
    apply BlockOk.of_tiles
    · exact hb.tiles.congr fun x hx => (hsame x hx).1
    · intro x hx
      rw [(hsame x hx).2.1, (hsame x hx).1]
      exact hb.fits x hx
    · intro x hx hlive
      have hne : x ≠ off := fun he => hlive (he ▸ hzero)
      rw [(hother x hx hne).1] at hlive
      rw [(hsame x hx).2.2]
      exact hb.named x hx hlive
  refine ⟨hok, ?_⟩
  have hnone : recordOf b' off = none := if_neg fun h => h.1 hzero
  rw [blockListing, hoffs', hoffs, List.filterMap_cons_none hnone]
  apply List.filterMap_congr
  intro x hx
  obtain ⟨hxm, hle⟩ := hb.mem_after (l := []) hoffs hx
  obtain ⟨hi, -, hlen, hn⟩ := hother x hxm (by omega)
  exact recordOf_congr hi hlen hn

/-- A record takes the space of the one behind it. -/
lemma BlockOk.absorb_listing {l m : List Nat} {q : Nat} (hb : BlockOk b)
    (hoffs : dirOffsets b = l ++ q :: off :: m) :
    BlockOk (b.setLe16 (q + 4) (entRecLen b q + entRecLen b off)) ∧
      blockListing (b.setLe16 (q + 4) (entRecLen b q + entRecLen b off)) =
        (l ++ q :: m).filterMap (recordOf b) := by
  have htiles : Tiles (entRecLen b) 0 1024 (l ++ q :: off :: m) := hoffs ▸ hb.tiles
  have hqoff : off = q + entRecLen b q := htiles.cut.2.2.1
  have hmem : ∀ x ∈ l ++ q :: m, x ∈ dirOffsets b := by
    intro x hx
    rw [hoffs]
    simp only [List.mem_append, List.mem_cons] at hx ⊢
    tauto
  have hq : q ∈ dirOffsets b := hmem q (by simp)
  have hboundq := hb.bounds hq
  have hboundoff := hb.bounds (show off ∈ dirOffsets b by simp [hoffs])
  have hqlen : entRecLen (b.setLe16 (q + 4) (entRecLen b q + entRecLen b off)) q =
      entRecLen b q + entRecLen b off :=
    (Bytes.le16_setLe16_same _ _ (by omega)).trans (Nat.mod_eq_of_lt (by omega))
  have hget : ∀ k, k < q + 4 ∨ q + 6 ≤ k →
      Bytes.get (b.setLe16 (q + 4) (entRecLen b q + entRecLen b off)) k = b.get k :=
    fun k hk => Bytes.get_setLe16 _ _ hk
  generalize b.setLe16 (q + 4) (entRecLen b q + entRecLen b off) = b' at hqlen hget ⊢
  have hother := fun x hx hne =>
    hb.record_other (x := x) hq hx hne fun k hk => hget k (by omega)
  have hsame : ∀ x ∈ l ++ q :: m, entInode b' x = entInode b x ∧
      entNameLen b' x = entNameLen b x ∧ recordName b' x = recordName b x := by
    intro x hx
    by_cases hne : x = q
    · rw [hne]
      exact ⟨Bytes.le32_congr fun k hk => hget _ (by omega),
        record_rest fun k hk _ => hget k (by omega)⟩
    · obtain ⟨hi, -, hrest⟩ := hother x (hmem x hx) hne
      exact ⟨hi, hrest⟩
  obtain ⟨hok, hoffs'⟩ : BlockOk b' ∧ dirOffsets b' = l ++ q :: m := by
    apply BlockOk.of_tiles
    · refine htiles.merge (fun x hx => ?_) hqlen
      refine (hother x (hmem x (by simp only [List.mem_append, List.mem_cons]; tauto)) ?_).2.1
      rcases hx with hx | hx
      · obtain ⟨hxm, hle⟩ := hb.mem_before hoffs hx
        have := (hb.bounds hxm).1
        omega
      · have := (hb.mem_after hoffs (List.mem_cons_of_mem _ hx)).2
        omega
    · intro x hx
      have hfit := hb.fits x (hmem x hx)
      rw [(hsame x hx).2.1]
      by_cases hne : x = q
      · rw [hne] at hfit ⊢
        omega
      · rwa [(hother x (hmem x hx) hne).2.1]
    · intro x hx hlive
      rw [(hsame x hx).1] at hlive
      rw [(hsame x hx).2.2]
      exact hb.named x (hmem x hx) hlive
  refine ⟨hok, ?_⟩
  rw [blockListing, hoffs']
  apply List.filterMap_congr
  intro x hx
  obtain ⟨hi, hlen, hn⟩ := hsame x hx
  exact recordOf_congr hi hlen hn

/-- Removing the first record of a name erases its pair. -/
theorem BlockOk.dropEntry_listing (hb : BlockOk b) {p : Option Nat}
    (h : findEntryPrev s b name none (dirOffsets b) = some (p, off)) :
    BlockOk (dropEntry b p off) ∧ name ∈ (blockListing b).keys ∧
      blockListing (dropEntry b p off) = (blockListing b).kerase name := by
  obtain ⟨l, m, hoffs, ⟨hlive, hname⟩, hl, hp⟩ := findEntryPrev_eq_some h
  have hoff : off ∈ dirOffsets b := hoffs ▸ List.mem_append_right _ (List.mem_cons_self ..)
  rw [hb.entName_eq hoff] at hname
  have hrec : recordOf b off = some ⟨name, entInode b off⟩ := by
    rw [hb.recordOf_eq hoff, if_pos hlive, hname]
  have hkeys := hb.notMem_keys (fun x hx => (hb.mem_before hoffs hx).1) hl
  have hlisting : blockListing b = l.filterMap (recordOf b) ++
      ⟨name, entInode b off⟩ :: m.filterMap (recordOf b) := by
    rw [blockListing, hoffs, List.filterMap_append, List.filterMap_cons_some hrec]
  have herase : (blockListing b).kerase name = (l ++ m).filterMap (recordOf b) := by
    have hcons : List.kerase name (⟨name, entInode b off⟩ :: m.filterMap (recordOf b)) =
        m.filterMap (recordOf b) := List.kerase_cons_eq rfl
    rw [hlisting, List.kerase_append_right hkeys, hcons, List.filterMap_append]
  have hmem : name ∈ (blockListing b).keys := by
    rw [hlisting, List.keys_append, List.keys_cons]
    simp
  rw [herase]
  rw [Option.or_none] at hp
  subst hp
  rcases List.eq_nil_or_concat l with rfl | ⟨l, q, rfl⟩
  · obtain ⟨hok, hlist⟩ := hb.clear_listing hoffs
    exact ⟨hok, hmem, hlist⟩
  · rw [List.concat_eq_append, List.append_assoc, List.singleton_append] at hoffs
    obtain ⟨hok, hlist⟩ := hb.absorb_listing hoffs
    rw [List.concat_eq_append, List.getLast?_concat, List.append_assoc, List.singleton_append]
    exact ⟨hok, hmem, hlist⟩

end NeuroSpark
