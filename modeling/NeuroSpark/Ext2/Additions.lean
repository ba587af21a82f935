import NeuroSpark.Ext2.FreeList

/-!
# Entries added to directories

What `dir_add_entry` does to a directory of a well-formed image: it splits a record of an existing
block, or lets the directory grow by a block, or fails, and a failure can leave an indirect block
behind that no inode has. In terms of listings an entry is inserted, as long as no zero byte falls
on the next record and the new block holds no stale records.
-/

namespace NeuroSpark

open Word Ext2View

variable {L : Ext2Layout} {n d b : Nat} {s t : Ext2} {i : Ext2Inode} {v : Ext2View}
  {name : CString} {buf : Ext2Block}

/-! ### Writing one block of a directory -/

lemma Working.fileBlock_inj (hk : Working L n s i) {b' : Nat} (h : fileBlock (s.view L) i b ≠ 0)
    (heq : fileBlock (s.view L) i b' = fileBlock (s.view L) i b) : b' = b := by
  obtain ⟨sl, hsl, hslot⟩ := fileBlock_eq_slot h
  obtain ⟨sl', hsl', hslot'⟩ := fileBlock_eq_slot (heq ▸ h : fileBlock (s.view L) i b' ≠ 0)
  have hheld := held_withInode_same.mpr ⟨hk.live, hk.notInline, hslot, h⟩
  have hheld' := held_withInode_same.mpr ⟨hk.live, hk.notInline, hslot'.trans heq, h⟩
  have hsame := (hk.owned.exclusive.unique hheld hheld').2
  exact fileSlot_inj hsl' (hsame ▸ hsl)

/-- A block of the inode in memory is written. -/
lemma Working.writeBlock (hk : Working L n s i) (h : fileBlock (s.view L) i b ≠ 0)
    (buf : Ext2Block) :
    Extends L n IsFileSlot IsFileSlot s i (writeBlock s (fileBlock (s.view L) i b) buf) i ∧
      (writeBlock s (fileBlock (s.view L) i b) buf).view L =
        { s.view L with
          data := Function.update (s.view L).data (fileBlock (s.view L) i b) buf } ∧
      (∀ b', fileBlock ((writeBlock s (fileBlock (s.view L) i b) buf).view L) i b' =
        fileBlock (s.view L) i b') ∧
      ∀ b', fileBlock (s.view L) i b' ≠ 0 →
        fileData ((writeBlock s (fileBlock (s.view L) i b) buf).view L) i b' =
          if b' = b then buf else fileData (s.view L) i b' := by
  obtain ⟨sl, hsl, hslot⟩ := fileBlock_eq_slot h
  have hext := Extends.write (S := IsFileSlot) (W := IsFileSlot) hk
    (fileSlot_ne_ptr hsl (by decide)) ⟨b, hsl⟩ (hslot ▸ h) buf
  rw [hslot] at hext
  obtain ⟨hext, hview⟩ := hext
  have hind : ∀ sl', ((NeuroSpark.writeBlock s (fileBlock (s.view L) i b) buf).view L).slot i sl' =
      (s.view L).slot i sl' := by
    apply slot_congr
    intro h12
    rw [hview]
    apply Function.update_of_ne
    intro he
    have hp := held_withInode_same.mpr ⟨hk.live, hk.notInline, hslot, h⟩
    have h12' := held_withInode_same.mpr ⟨hk.live, hk.notInline,
      (show (s.view L).slot i (.ptr 12) = fileBlock (s.view L) i b from he), h⟩
    exact fileSlot_ne_ptr (k := 12) hsl (by decide) (hk.owned.exclusive.unique hp h12').2
  have hblock : ∀ b', fileBlock ((NeuroSpark.writeBlock s (fileBlock (s.view L) i b) buf).view L)
      i b' = fileBlock (s.view L) i b' := by
    intro b'
    unfold fileBlock at hind ⊢
    rw [funext hind]
  refine ⟨hext, hview, hblock, fun b' hb' => ?_⟩
  rw [fileData, hblock, hview]
  split_ifs with heq
  · rw [heq]
    exact Function.update_self _ _ _
  · exact Function.update_of_ne (fun he => heq (hk.fileBlock_inj h he)) _ _

/-- One block of the directory `d` was written. -/
structure BlockWritten (L : Ext2Layout) (d b : Nat) (buf : Ext2Block) (s t : Ext2) : Prop where
  becomes : s.Becomes t L (t.view L)
  inOrder : t.InOrder L
  blockUsed : (t.view L).blockUsed = (s.view L).blockUsed
  inodeUsed : (t.view L).inodeUsed = (s.view L).inodeUsed
  inode : (t.view L).inode = (s.view L).inode
  same : ∀ m, m ≠ d → SameFile (s.view L) (t.view L) m
  fileBlock : ∀ b', fileBlock (t.view L) ((s.view L).inode d) b' =
    NeuroSpark.fileBlock (s.view L) ((s.view L).inode d) b'
  fileData : ∀ b', NeuroSpark.fileBlock (s.view L) ((s.view L).inode d) b' ≠ 0 →
    fileData (t.view L) ((s.view L).inode d) b' =
      if b' = b then buf else NeuroSpark.fileData (s.view L) ((s.view L).inode d) b'

lemma Ext2.InOrder.blockWritten (hs : s.InOrder L) (hd : (s.view L).Owner d)
    (h : fileBlock (s.view L) ((s.view L).inode d) b ≠ 0) (buf : Ext2Block) :
    BlockWritten L d b buf s (writeBlock s (fileBlock (s.view L) ((s.view L).inode d) b) buf) := by
  have hk := hs.working hd
  obtain ⟨hext, hview, hblock, hdata⟩ := hk.writeBlock h buf
  refine ⟨hext.becomes, hext.stop.inOrder, ?_, ?_, ?_, fun m hm => hext.sameFile hk hm, hblock,
    hdata⟩ <;> rw [hview]

/-- The directory `d` grew by a block that holds `blk`. -/
structure Grew (L : Ext2Layout) (d : Nat) (blk : Ext2Block) (s t : Ext2) : Prop where
  becomes : s.Becomes t L (t.view L)
  inOrder : t.InOrder L
  inodeUsed : (t.view L).inodeUsed = (s.view L).inodeUsed
  inode : ∀ m, m ≠ d → (t.view L).inode m = (s.view L).inode m
  same : ∀ m, m ≠ d → SameFile (s.view L) (t.view L) m
  mode : ((t.view L).inode d).mode = ((s.view L).inode d).mode
  size : ((t.view L).inode d).size = ((s.view L).inode d).size + 1024
  count : blockCount ((s.view L).inode d).size < 268
  fileBlock : ∀ b, NeuroSpark.fileBlock (s.view L) ((s.view L).inode d) b ≠ 0 →
    fileBlock (t.view L) ((t.view L).inode d) b =
      NeuroSpark.fileBlock (s.view L) ((s.view L).inode d) b
  fileData : ∀ b < blockCount ((s.view L).inode d).size,
    fileData (t.view L) ((t.view L).inode d) b =
      NeuroSpark.fileData (s.view L) ((s.view L).inode d) b
  last : NeuroSpark.fileBlock (t.view L) ((t.view L).inode d)
    (blockCount ((s.view L).inode d).size) ≠ 0
  lastData : NeuroSpark.fileData (t.view L) ((t.view L).inode d)
    (blockCount ((s.view L).inode d).size) = blk
  accounted : ∀ p, (t.view L).blockUsed p = true →
    (s.view L).blockUsed p = true ∨ ∃ sl, (t.view L).held d sl = some p

/-- A directory that grows gets the one free block as its indirect block and then has no block to
enter there. -/
def GrowthLeaks (m : Ext2MountState) (v : Ext2View) (i : Ext2Inode) (nameLen taken : Nat) : Prop :=
  roomIn v i nameLen = none ∧ blockCount i.size = 12 ∧ i.block 12 = 0 ∧
    (freeBlocks m v).length = taken + 1

lemma GrowthLeaks.newBlock {m : Ext2MountState} {nameLen taken : Nat}
    (h : GrowthLeaks m v i nameLen taken) :
    newBlock m v i (blockCount i.size) taken = none := by
  obtain ⟨-, hcount, h12, hfree⟩ := h
  have hnone : fileBlock v i 12 = 0 := by
    rw [fileBlock_indirect (by decide) (by decide), if_pos h12]
  rw [hcount, NeuroSpark.newBlock, if_neg (not_not.mpr hnone), if_pos ⟨Nat.le_refl 12, h12⟩]
  exact List.getElem?_eq_none (Nat.le_of_eq hfree)

section

variable (hs : s.InOrder L) (h1 : 1 ≤ s.mount.firstDataBlock) (hd : IsDirectory (s.view L) d)
  (hok : DirShape (s.view L) ((s.view L).inode d)) (fileType : Nat)
include hs h1 hd hok

/-- The last round of the loop of `dir_add_entry` succeeds. -/
lemma grew_of_getBlock {c : Nat} (hc : c = blockCount ((s.view L).inode d).size)
    (hgood : ¬ BadNum (inodeGetBlock s ((s.view L).inode d) c true).2.2) (blk : Ext2Block) :
    Grew L d blk s (writeInode (writeBlock (inodeGetBlock s ((s.view L).inode d) c true).1
        (inodeGetBlock s ((s.view L).inode d) c true).2.2 blk) d
      ((inodeGetBlock s ((s.view L).inode d) c true).2.1.setSize
        (((s.view L).inode d).size + 1024))).1 := by
  have hk := hs.working hd.owner
  have hsize := hok.size
  obtain ⟨hext, hres⟩ := inodeGetBlock_create (W := fun _ => False) hk c
  have hacc := fun p => (inodeGetBlock_getsBlock hk h1 c).accounted hs.layout h1 (p := p)
  have hextF := (getBlock_extends hk c).1
  generalize inodeGetBlock s ((s.view L).inode d) c true = g at hgood hext hres hacc hextF ⊢
  obtain ⟨u, j, p⟩ := g
  obtain ⟨sl, hsl, hg⟩ := hres.resolve_left fun h0 => hgood (Or.inl h0)
  have hku := hext.working hk
  have hp : fileBlock (u.view L) j c = p := by
    rw [fileBlock, hsl]
    exact hg.2.1
  have hp0 : fileBlock (u.view L) j c ≠ 0 := fun h0 => hgood (Or.inl (hp ▸ h0))
  obtain ⟨hextW, hviewW, hblockW, hdataW⟩ := hku.writeBlock hp0 blk
  rw [hp] at hextW hviewW hblockW hdataW
  have hall := hextF.trans hextW
  obtain ⟨hokW, hgrown, hview⟩ := hall.store (j := j.setSize (((s.view L).inode d).size + 1024))
    hd.owner (Ext2Inode.mode_setSize _ _) (Ext2Inode.block_setSize _ · _)
  generalize writeBlock u p blk = w at hextW hviewW hblockW hdataW hall hokW hgrown hview ⊢
  generalize (writeInode w d (j.setSize (((s.view L).inode d).size + 1024))).1 = t at hgrown hview ⊢
  -- the stored inode has the blocks of the one in memory
  have hin : (t.view L).inode d = j.setSize (((s.view L).inode d).size + 1024) := by
    rw [hview, withInode_inode_same]
  have hslot : ∀ sl, (t.view L).slot ((t.view L).inode d) sl = (w.view L).slot j sl := by
    intro sl
    rw [hin, hview]
    cases sl with
    | ptr k => exact Ext2Inode.block_setSize _ _ _
    | entry k =>
      rfl
  have hfb : ∀ b, fileBlock (t.view L) ((t.view L).inode d) b = fileBlock (u.view L) j b := by
    intro b
    rw [← hblockW b]
    unfold fileBlock
    rw [funext hslot]
  have hfd : ∀ b, fileBlock (u.view L) j b ≠ 0 →
      fileData (t.view L) ((t.view L).inode d) b = if b = c then blk else fileData (u.view L) j b := by
    intro b hb
    rw [← hdataW b hb, fileData, fileData, hfb, hblockW, hview]
    rfl
  have hold : ∀ b, fileBlock (s.view L) ((s.view L).inode d) b ≠ 0 →
      fileBlock (u.view L) j b = fileBlock (s.view L) ((s.view L).inode d) b := by
    intro b hb
    obtain ⟨sl', hsl', hslot'⟩ := fileBlock_eq_slot hb
    rw [fileBlock, hsl']
    exact (hext.slots sl' (hslot' ▸ hb)).trans hslot'
  have hclt : c < 268 := fileBlock_lt hp0
  refine ⟨hgrown.becomes, hgrown.inOrder, hgrown.inodeUsed, hgrown.inode, fun m hm => ?_,
    hgrown.mode, ?_, hc ▸ hclt, fun b hb => (hfb b).trans (hold b hb), fun b hb => ?_, ?_, ?_, ?_⟩
  · have hsame := hall.sameFile hk hm
    exact ⟨fun hu => by rw [hgrown.inodeUsed]; exact hu, hgrown.inode m hm, fun sl' q hq => by
      rw [← hsame.data sl' q hq, hview]
      rfl⟩
  · rw [hin, Ext2Inode.size_setSize _ (by omega)]
  · have hb0 := hok.present b hb
    have hb0' : fileBlock (u.view L) j b ≠ 0 := by rwa [hold b hb0]
    rw [hfd b hb0', if_neg (by omega), fileData, fileData, hold b hb0]
    obtain ⟨hused, -, -⟩ := fileBlock_data hk hb0
    refine hext.data _ hused (fun he => ?_) fun _ h => h.elim
    -- a block of the directory is not its indirect block
    obtain ⟨sl', hsl', hslot'⟩ := fileBlock_eq_slot hb0
    have hheld := held_eq_some.mpr ⟨hd.owner, hslot', hb0⟩
    have hheld' := held_eq_some.mpr ⟨hd.owner, (show (s.view L).slot ((s.view L).inode d) (.ptr 12) =
      fileBlock (s.view L) ((s.view L).inode d) b from he.symm), hb0⟩
    exact fileSlot_ne_ptr (k := 12) hsl' (by decide) (hs.owned.exclusive.unique hheld hheld').2
  · rw [← hc, hfb]
    exact hp0
  · rw [← hc, hfd c hp0, if_pos rfl]
  · intro q hq
    have hqu : (u.view L).blockUsed q = true := by
      have hbits : (t.view L).blockUsed = (u.view L).blockUsed := by
        rw [hview, withInode, hviewW]
      rwa [hbits] at hq
    have hq0 : q ≠ 0 := by
      have hv := (blockUsed_valid hqu).1
      rw [hext.becomes.mount] at hv
      omega
    refine (hacc q hqu).imp_right ?_
    rintro ⟨sl', hsl'⟩
    refine ⟨sl', held_eq_some.mpr ⟨⟨by rw [hgrown.inodeUsed]; exact hd.1, ?_⟩, ?_, hq0⟩⟩
    · apply Ext2Inode.not_inlineSymlink_of_isDir
      rw [Ext2Inode.isDir, hgrown.mode]
      exact hd.2
    · rw [hslot, hextW.slots sl' (hsl' ▸ hq0), hsl']

/-- What `dir_add_entry` does to a directory of a well-formed image. -/
theorem dirAddEntry_cases (hname : name.length < 256) :
    (∃ b off, roomIn (s.view L) ((s.view L).inode d) name.length = some (b, off) ∧
      (dirAddEntry s d name n fileType).2 = true ∧
      BlockWritten L d b (splitEntry (fileData (s.view L) ((s.view L).inode d) b) off n fileType
        name) s (dirAddEntry s d name n fileType).1) ∨
    (roomIn (s.view L) ((s.view L).inode d) name.length = none ∧
      (dirAddEntry s d name n fileType).2 = true ∧
      ∃ p, newBlock s.mount (s.view L) ((s.view L).inode d)
          (blockCount ((s.view L).inode d).size) 0 = some p ∧
        Grew L d (addToNewBlock ((s.view L).data p) n fileType name) s
          (dirAddEntry s d name n fileType).1) ∨
    ((dirAddEntry s d name n fileType) = (s, false) ∧
      ¬ GrowthLeaks s.mount (s.view L) ((s.view L).inode d) name.length 0 ∧
      roomIn (s.view L) ((s.view L).inode d) name.length = none ∧
      (blockCount ((s.view L).inode d).size < 268 →
        newBlock s.mount (s.view L) ((s.view L).inode d)
          (blockCount ((s.view L).inode d).size) 0 = none) ∧
      (268 ≤ blockCount ((s.view L).inode d).size ∨
        freeBlocks s.mount (s.view L) = [])) ∨
    (GrowthLeaks s.mount (s.view L) ((s.view L).inode d) name.length 0 ∧
      (dirAddEntry s d name n fileType).2 = false ∧ ∃ x, freeBlocks s.mount (s.view L) = [x] ∧
        Extends L d IsFileSlot (fun _ => False) s ((s.view L).inode d)
          (dirAddEntry s d name n fileType).1 (((s.view L).inode d).setBlock 12 x)) := by
  have hk := hs.working hd.owner
  rw [dirAddEntry_eq hs hd hok hname]
  cases hroom : roomIn (s.view L) ((s.view L).inode d) name.length with
  | some r =>
    obtain ⟨b, off⟩ := r
    have hb := (roomIn_eq_some hroom).1
    exact Or.inl ⟨b, off, rfl, rfl, hs.blockWritten hd.owner (hok.present b hb) _⟩
  | none =>
    right
    rw [dirAddEntryFrom_last hk hok]
    have hget := inodeGetBlock_getsBlock hk h1 (blockCount ((s.view L).inode d).size)
    have hext : Extends L d IsFileSlot (fun _ => False) s ((s.view L).inode d)
        (inodeGetBlock s ((s.view L).inode d) (blockCount ((s.view L).inode d).size) true).1
        (inodeGetBlock s ((s.view L).inode d) (blockCount ((s.view L).inode d).size) true).2.1 :=
      (inodeGetBlock_create (W := fun _ => False) hk _).1.mono (fun sl hsl => ⟨_, hsl⟩) fun _ h => h
    by_cases hbad : BadNum
        (inodeGetBlock s ((s.view L).inode d) (blockCount ((s.view L).inode d).size) true).2.2
    · right
      simp only [if_pos hbad]
      generalize inodeGetBlock s ((s.view L).inode d) (blockCount ((s.view L).inode d).size) true =
        g at hget hext hbad ⊢
      cases hget with
      | present h => exact absurd hbad (fileBlock_data hk h).2.1
      | fails h hno =>
        refine Or.inl ⟨rfl, ?_, trivial, fun hlt => ?_, hno⟩
        · rintro ⟨-, hcount, -, hfree⟩
          rcases hno with hno | hno
          · omega
          · rw [hno] at hfree
            cases hfree
        · rw [newBlock, if_neg (not_not.mpr h), hno.resolve_left (Nat.not_le.mpr hlt)]
          rfl
      | direct h hlt hfree ht =>
        have hx := mem_freeBlocks.mp (hfree ▸ List.mem_cons_self ..)
        exact absurd hbad (validBlock_not_badNum hs.layout h1 hx.1)
      | entry h hge hlt h12 hfree ht =>
        have hx := mem_freeBlocks.mp (hfree ▸ List.mem_cons_self ..)
        exact absurd hbad (validBlock_not_badNum hs.layout h1 hx.1)
      | indirect h hge hlt h12 hfree ht =>
        have hx := mem_freeBlocks.mp (hfree ▸ List.mem_cons_of_mem _ (List.mem_cons_self ..))
        exact absurd hbad (validBlock_not_badNum hs.layout h1 hx.1)
      | @lastIndirect x t h hge hlt h12 hfree ht =>
        have hcount : blockCount ((s.view L).inode d).size = 12 := by
          by_contra hne
          have hp := hok.present 12 (by omega)
          rw [fileBlock_indirect (by decide) (by decide), if_pos h12] at hp
          exact hp rfl
        exact Or.inr ⟨⟨hroom, hcount, h12, by rw [hfree]; rfl⟩, trivial, x, hfree, hext⟩
    · left
      rw [if_neg hbad]
      refine ⟨rfl, rfl, _, hget.number hbad, ?_⟩
      rw [hget.stale hk hbad]
      exact grew_of_getBlock hs h1 hd hok rfl hbad _

lemma dirAddEntry_succeeds (hname : name.length < 256)
    (hcount : blockCount ((s.view L).inode d).size < 268)
    (hfree : 2 ≤ (freeBlocks s.mount (s.view L)).length) :
    (dirAddEntry s d name n fileType).2 = true := by
  rcases dirAddEntry_cases (n := n) hs h1 hd hok fileType hname with ⟨-, -, -, hadd, -⟩ |
    ⟨-, hadd, -⟩ | ⟨-, -, -, -, hno⟩ | ⟨hleak, -⟩
  · exact hadd
  · exact hadd
  · rcases hno with hno | hno
    · omega
    · rw [hno] at hfree
      exact absurd hfree (by decide)
  · have hone := hleak.2.2.2
    omega

end

/-! ### Listings -/

/-- A pair was inserted into a listing. -/
def Inserted (name : CString) (n : Nat) (l l' : Listing) : Prop :=
  ∃ A B : Listing, l = A ++ B ∧ l' = A ++ ⟨name, n⟩ :: B

namespace Inserted

variable {l l' : Listing} {name' : CString}

section

variable (h : Inserted name n l l')
include h

lemma perm : l'.Perm (⟨name, n⟩ :: l) := by
  obtain ⟨A, B, rfl, rfl⟩ := h
  exact List.perm_middle

lemma nodupKeys (hl : l.NodupKeys) (habs : name ∉ l.keys) : l'.NodupKeys := by
  rw [List.perm_nodupKeys h.perm]
  exact List.nodupKeys_cons.mpr ⟨habs, hl⟩

lemma dlookup_ne (hne : name' ≠ name) : l'.dlookup name' = l.dlookup name' := by
  obtain ⟨A, B, rfl, rfl⟩ := h
  rw [List.dlookup_append, List.dlookup_append, List.dlookup_cons_ne _ _ hne]

lemma dlookup_self (habs : name ∉ l.keys) : l'.dlookup name = some n := by
  obtain ⟨A, B, rfl, rfl⟩ := h
  rw [List.keys_append, List.mem_append, not_or] at habs
  rw [List.dlookup_append, List.dlookup_eq_none.mpr habs.1, List.dlookup_cons_eq]
  rfl

end

end Inserted

lemma flatMap_range_update {α : Type*} {f g : Nat → List α} {c : Nat} (hb : b < c)
    (h : ∀ b' < c, b' ≠ b → g b' = f b') :
    ∃ X Y, (List.range c).flatMap f = X ++ (f b ++ Y) ∧
      (List.range c).flatMap g = X ++ (g b ++ Y) := by
  obtain ⟨l, m, hl⟩ := List.append_of_mem (List.mem_range.mpr hb)
  have hnodup : (l ++ b :: m).Nodup := hl ▸ List.nodup_range
  have hsame : ∀ b' ∈ l ++ m, g b' = f b' := by
    intro b' hb'
    have hmem : b' ∈ List.range c := by
      rw [hl]
      simp only [List.mem_append, List.mem_cons] at hb' ⊢
      tauto
    refine h b' (List.mem_range.mp hmem) ?_
    rintro rfl
    exact (List.nodup_middle.mp hnodup |> List.nodup_cons.mp).1 hb'
  refine ⟨l.flatMap f, m.flatMap f, ?_, ?_⟩
  · rw [hl, List.flatMap_append, List.flatMap_cons]
  · rw [hl, List.flatMap_append, List.flatMap_cons,
      List.flatMap_congr fun b' hb' => hsame b' (List.mem_append_left _ hb'),
      List.flatMap_congr fun b' hb' => hsame b' (List.mem_append_right _ hb')]

namespace BlockWritten

variable (h : BlockWritten L d b buf s t) (hok : DirShape (s.view L) ((s.view L).inode d))
include h hok

lemma dirShape : DirShape (t.view L) ((t.view L).inode d) := by
  rw [h.inode]
  exact ⟨hok.size, fun b' hb' => by rw [h.fileBlock]; exact hok.present b' hb'⟩

lemma blocks (hold : ∀ b' < blockCount ((s.view L).inode d).size,
    BlockOk (NeuroSpark.fileData (s.view L) ((s.view L).inode d) b')) (hbuf : BlockOk buf) :
    ∀ b' < blockCount ((t.view L).inode d).size,
      BlockOk (NeuroSpark.fileData (t.view L) ((t.view L).inode d) b') := by
  rw [h.inode]
  intro b' hb'
  rw [h.fileData b' (hok.present b' hb')]
  split_ifs
  · exact hbuf
  · exact hold b' hb'

lemma listing (hb : b < blockCount ((s.view L).inode d).size) :
    ∃ X Y : Listing, dirListing (s.view L) ((s.view L).inode d) =
        X ++ (blockListing (NeuroSpark.fileData (s.view L) ((s.view L).inode d) b) ++ Y) ∧
      dirListing (t.view L) ((t.view L).inode d) = X ++ (blockListing buf ++ Y) := by
  rw [h.inode]
  obtain ⟨X, Y, h₁, h₂⟩ := flatMap_range_update hb
    (f := fun b' => blockListing (NeuroSpark.fileData (s.view L) ((s.view L).inode d) b'))
    (g := fun b' => blockListing (NeuroSpark.fileData (t.view L) ((s.view L).inode d) b'))
    fun b' hb' hne => by rw [h.fileData b' (hok.present b' hb'), if_neg hne]
  refine ⟨X, Y, h₁, ?_⟩
  rw [h.fileData b (hok.present b hb), if_pos rfl] at h₂
  exact h₂

omit hok in
lemma isDirectory {m : Nat} (hm : IsDirectory (s.view L) m) : IsDirectory (t.view L) m := by
  rw [IsDirectory, h.inodeUsed, h.inode]
  exact hm

end BlockWritten

section

variable {off fileType : Nat}
  (h : BlockWritten L d b (splitEntry (fileData (s.view L) ((s.view L).inode d) b) off n fileType
    name) s t)
  (hok : DirRecords (s.view L) ((s.view L).inode d))
  (hroom : roomIn (s.view L) ((s.view L).inode d) name.length = some (b, off))
  (hname : GoodName name) (hlt : n < 4294967296) (hn0 : n ≠ 0)
include h hok hroom hname hlt hn0

lemma splitEntry_blocks : ∀ b' < blockCount ((t.view L).inode d).size,
    BlockOk (fileData (t.view L) ((t.view L).inode d) b') := by
  obtain ⟨hb, hoff, hhas⟩ := roomIn_eq_some hroom
  exact h.blocks hok.toDirShape hok.blocks
    ((hok.blocks b hb).splitEntry_blockOk hoff hname hhas hlt hn0 fileType)

lemma splitEntry_inserted
    (hclob : ¬ Clobbers (fileData (s.view L) ((s.view L).inode d) b) off name) :
    Inserted name n (dirListing (s.view L) ((s.view L).inode d))
      (dirListing (t.view L) ((t.view L).inode d)) := by
  obtain ⟨hb, hoff, hhas⟩ := roomIn_eq_some hroom
  obtain ⟨X, Y, hold, hnew⟩ := h.listing hok.toDirShape hb
  obtain ⟨A, B, hA, hB⟩ :=
    (hok.blocks b hb).splitEntry_listing hoff hname hhas hlt hn0 fileType hclob
  refine ⟨X ++ A, B ++ Y, ?_, ?_⟩
  · rw [hold, hA]
    simp
  · rw [hnew, hB]
    simp

/-- Where a zero byte falls on the next record, its pair is no longer listed. -/
lemma splitEntry_loses (habs : name ∉ (dirListing (s.view L) ((s.view L).inode d)).keys)
    (hclob : Clobbers (fileData (s.view L) ((s.view L).inode d) b) off name) :
    ∃ c x, GoodName c ∧ x ≠ 0 ∧
      (⟨c, x⟩ : Σ _ : CString, Nat) ∈ dirListing (s.view L) ((s.view L).inode d) ∧
      (⟨c, x⟩ : Σ _ : CString, Nat) ∉ dirListing (t.view L) ((t.view L).inode d) := by
  obtain ⟨hb, hoff, hhas⟩ := roomIn_eq_some hroom
  obtain ⟨X, Y, hold, hnew⟩ := h.listing hok.toDirShape hb
  obtain ⟨A, B, hA, hB⟩ :=
    (hok.blocks b hb).splitEntry_clobbers hoff hname hhas hlt hn0 fileType hclob
  have hx256 := hclob.2.2.2
  have hgood := (hok.blocks b hb).goodName_of_mem (hA ▸ List.mem_append_right _
    (List.mem_cons_self ..))
  generalize recordName (fileData (s.view L) ((s.view L).inode d) b)
    (off + entRecLen (fileData (s.view L) ((s.view L).inode d) b) off) = c at hA hB hgood
  generalize entInode (fileData (s.view L) ((s.view L).inode d) b)
    (off + entRecLen (fileData (s.view L) ((s.view L).inode d) b) off) = x at hA hB hx256 hgood
  have hnodup := hok.names
  rw [hold, hA] at hnodup habs
  rw [hold, hA, hnew, hB]
  refine ⟨c, x, hgood, by rintro rfl; exact hx256 rfl, by simp, fun hmem => ?_⟩
  -- the name occurred once before
  have hperm : (X ++ ((A ++ ⟨c, x⟩ :: B) ++ Y)).Perm (⟨c, x⟩ :: (X ++ (A ++ (B ++ Y)))) := by
    simp only [List.append_assoc, List.cons_append]
    rw [← List.append_assoc, ← List.append_assoc X A]
    exact List.perm_middle
  have hnot := (List.nodupKeys_cons.mp ((List.perm_nodupKeys hperm).mp hnodup)).1
  have hrest : (⟨c, x⟩ : Σ _ : CString, Nat) ∉ X ++ (A ++ (B ++ Y)) := fun he =>
    hnot (List.mem_keys_of_mem he)
  simp only [List.mem_append, List.mem_cons, not_or] at hmem hrest
  rcases hmem with he | ((he | he | he | he) | he)
  · exact hrest.1 he
  · exact hrest.2.1 he
  · obtain rfl : c = name := congrArg Sigma.fst he
    exact habs (by simp [List.keys])
  · split_ifs at he with hz
    · cases he
    · have hx : x = x / 256 * 256 := by
        have he := List.mem_singleton.mp he
        simpa using he
      exact hx256 (by omega)
  · exact hrest.2.2.1 he
  · exact hrest.2.2.2 he

end

namespace Grew

variable (h : Grew L d buf s t) (hok : DirShape (s.view L) ((s.view L).inode d))
include h hok

lemma blockCount_eq : blockCount ((t.view L).inode d).size =
    blockCount ((s.view L).inode d).size + 1 := by
  have hcount := h.count
  have hsize := hok.size
  rw [h.size]
  unfold blockCount at hcount hsize ⊢
  simp only [ext2BlockSize] at *
  rw [u32_of_lt (by omega)]
  omega

lemma dirShape : DirShape (t.view L) ((t.view L).inode d) := by
  have hsize := hok.size
  refine ⟨by rw [h.blockCount_eq hok, h.size]; omega, fun b' hb' => ?_⟩
  rw [h.blockCount_eq hok] at hb'
  rcases Nat.lt_succ_iff_lt_or_eq.mp hb' with hlt | rfl
  · rw [h.fileBlock b' (hok.present b' hlt)]
    exact hok.present b' hlt
  · exact h.last

lemma listing : dirListing (t.view L) ((t.view L).inode d) =
    dirListing (s.view L) ((s.view L).inode d) ++ blockListing buf := by
  have hsame : (List.range (blockCount ((s.view L).inode d).size)).flatMap
      (fun b => blockListing (NeuroSpark.fileData (t.view L) ((t.view L).inode d) b)) =
        dirListing (s.view L) ((s.view L).inode d) := by
    apply List.flatMap_congr
    intro b' hb'
    rw [h.fileData b' (List.mem_range.mp hb')]
  rw [dirListing, h.blockCount_eq hok, List.range_succ, List.flatMap_append, List.flatMap_singleton,
    h.lastData, hsame]

lemma blocks (hold : ∀ b' < blockCount ((s.view L).inode d).size,
    BlockOk (NeuroSpark.fileData (s.view L) ((s.view L).inode d) b')) (hbuf : BlockOk buf) :
    ∀ b' < blockCount ((t.view L).inode d).size,
      BlockOk (NeuroSpark.fileData (t.view L) ((t.view L).inode d) b') := by
  intro b' hb'
  rw [h.blockCount_eq hok] at hb'
  rcases Nat.lt_succ_iff_lt_or_eq.mp hb' with hlt | rfl
  · rw [h.fileData b' hlt]
    exact hold b' hlt
  · rw [h.lastData]
    exact hbuf

omit hok in
lemma isDirectory {m : Nat} (hm : IsDirectory (s.view L) m) : IsDirectory (t.view L) m := by
  refine ⟨by rw [h.inodeUsed]; exact hm.1, ?_⟩
  by_cases hmd : m = d
  · subst hmd
    rw [Ext2Inode.isDir, h.mode]
    exact hm.2
  · rw [h.inode m hmd]
    exact hm.2

end Grew

/-! ### An entry is inserted -/

/-- The entry finds a place where no zero byte falls on the next record, or in a new block without
stale records that have room. -/
def EntryClean (m : Ext2MountState) (v : Ext2View) (i : Ext2Inode) (name : CString) (taken : Nat) :
    Prop :=
  match roomIn v i name.length with
  | some (b, off) => ¬ Clobbers (fileData v i b) off name
  | none => ∀ p, newBlock m v i (blockCount i.size) taken = some p →
      (dirOffsets (v.data p)).find? (hasRoom (v.data p) name.length) = none

lemma inodeUsed_number (hs : s.HasLayout L) (hn : (s.view L).inodeUsed n = true) :
    n < 4294967296 ∧ n ≠ 0 := by
  have hle := hs.fits.totalInodes.2
  obtain ⟨h₁, h₂⟩ := inodeUsed_valid hn
  omega

/-- One directory of a well-formed image got an entry. -/
lemma Ext2.WellFormed.inserted (hs : s.WellFormed L) (hn : (s.view L).inodeUsed n = true)
    (hb : s.Becomes t L (t.view L)) (ht : t.InOrder L)
    (hused : (t.view L).inodeUsed = (s.view L).inodeUsed)
    (hinode : ∀ m, m ≠ d → (t.view L).inode m = (s.view L).inode m)
    (hmode : ((t.view L).inode d).mode = ((s.view L).inode d).mode)
    (hsame : ∀ m, m ≠ d → SameFile (s.view L) (t.view L) m)
    (hshape : DirShape (t.view L) ((t.view L).inode d))
    (hblocks : ∀ b < blockCount ((t.view L).inode d).size,
      BlockOk (fileData (t.view L) ((t.view L).inode d) b))
    (habs : name ∉ (dirListing (s.view L) ((s.view L).inode d)).keys)
    (hins : Inserted name n (dirListing (s.view L) ((s.view L).inode d))
      (dirListing (t.view L) ((t.view L).inode d))) : t.WellFormed L := by
  have hdir : ∀ m, IsDirectory (t.view L) m ↔ IsDirectory (s.view L) m := by
    intro m
    rw [IsDirectory, IsDirectory, hused]
    by_cases hm : m = d
    · subst hm
      rw [Ext2Inode.isDir, hmode]
      rfl
    · rw [hinode m hm]
  refine ⟨ht, by rw [hb.mount]; exact hs.firstDataBlock, (hdir _).mpr hs.root, fun m hm => ?_⟩
  have hm' := (hdir m).mp hm
  have hold := hs.dirs m hm'
  by_cases hmd : m = d
  · subst hmd
    refine ⟨hshape, hblocks, hins.nodupKeys hold.names habs, fun e he => ?_⟩
    rw [hused]
    rcases List.mem_cons.mp (hins.perm.mem_iff.mp he) with rfl | he
    · exact hn
    · exact hold.live e he
  · exact (hsame m hmd).dirOk hm'.owner hold fun e he => by rw [hused]; exact hold.live e he

/-- A clean entry is inserted into the listing of its directory, and the image stays well formed. -/
theorem dirAddEntry_inserts (hs : s.WellFormed L) (hd : IsDirectory (s.view L) d)
    (hname : GoodName name) (hn : (s.view L).inodeUsed n = true) (fileType : Nat)
    (habs : name ∉ (dirListing (s.view L) ((s.view L).inode d)).keys)
    (hclean : EntryClean s.mount (s.view L) ((s.view L).inode d) name 0)
    (hok : (dirAddEntry s d name n fileType).2 = true) :
    (dirAddEntry s d name n fileType).1.WellFormed L ∧
      Inserted name n (dirListing (s.view L) ((s.view L).inode d))
        (dirListing ((dirAddEntry s d name n fileType).1.view L)
          (((dirAddEntry s d name n fileType).1.view L).inode d)) ∧
      s.Becomes (dirAddEntry s d name n fileType).1 L ((dirAddEntry s d name n fileType).1.view L) ∧
      ((dirAddEntry s d name n fileType).1.view L).inodeUsed = (s.view L).inodeUsed ∧
      ∀ m, m ≠ d → SameFile (s.view L) ((dirAddEntry s d name n fileType).1.view L) m := by
  obtain ⟨hlt, hn0⟩ := inodeUsed_number hs.layout hn
  have hdir := hs.dirs d hd
  rcases dirAddEntry_cases hs.toInOrder hs.firstDataBlock hd hdir.toDirShape fileType hname.length
    with ⟨b, off, hroom, -, hw⟩ | ⟨hroom, -, p, hp, hg⟩ | ⟨hfail, -⟩ | ⟨-, hfail, -⟩
  · rw [EntryClean, hroom] at hclean
    have hins := splitEntry_inserted hw hdir.records hroom hname hlt hn0 hclean
    exact ⟨hs.inserted hn hw.becomes hw.inOrder hw.inodeUsed
      (fun m _ => congrFun hw.inode m) (by rw [hw.inode]) hw.same (hw.dirShape hdir.toDirShape)
      (splitEntry_blocks hw hdir.records hroom hname hlt hn0) habs hins, hins, hw.becomes,
      hw.inodeUsed, hw.same⟩
  · rw [EntryClean, hroom] at hclean
    rw [addToNewBlock, hclean p hp] at hg
    obtain ⟨hfresh, hlist⟩ := hname.freshBlock hlt hn0 fileType
    have hins : Inserted name n (dirListing (s.view L) ((s.view L).inode d))
        (dirListing ((dirAddEntry s d name n fileType).1.view L)
          (((dirAddEntry s d name n fileType).1.view L).inode d)) := by
      refine ⟨dirListing (s.view L) ((s.view L).inode d), [], (List.append_nil _).symm, ?_⟩
      rw [hg.listing hdir.toDirShape, hlist]
    exact ⟨hs.inserted hn hg.becomes hg.inOrder hg.inodeUsed hg.inode hg.mode hg.same
      (hg.dirShape hdir.toDirShape) (hg.blocks hdir.toDirShape hdir.blocks hfresh) habs hins, hins,
      hg.becomes, hg.inodeUsed, hg.same⟩
  · rw [hfail] at hok
    cases hok
  · rw [hfail] at hok
    cases hok

/-! ### Names after an addition -/

lemma findEntry_stack (h : t.stack = s.stack) (blk : Ext2Block) (name : CString) :
    findEntry t blk name = findEntry s blk name := by
  have hget : t.bufferGet blk = s.bufferGet blk := by
    funext k
    rw [Ext2.bufferGet, Ext2.bufferGet, h]
  have hname : ∀ off, entName t blk off = entName s blk off := by
    intro off
    rw [entName, entName, hget]
  unfold findEntry
  simp only [hname]

section

variable (hs : s.WellFormed L) (hd : IsDirectory (s.view L) d)
include hs hd

lemma dirLookup_blockWritten (h : BlockWritten L d b buf s t) (hbuf : BlockOk buf)
    (name : CString) : dirLookup t d name =
      (dirListing (t.view L) ((t.view L).inode d)).dlookup name := by
  have hdir := hs.dirs d hd
  exact dirLookup_eq h.inOrder (h.isDirectory hd) (h.dirShape hdir.toDirShape)
    (h.blocks hdir.toDirShape hdir.blocks hbuf) name

/-- Splitting a record adds one name and leaves the others, but for the one whose record a zero
byte falls on. -/
lemma dirLookup_splitEntry {off fileType : Nat}
    (h : BlockWritten L d b (splitEntry (fileData (s.view L) ((s.view L).inode d) b) off n fileType
      name) s t)
    (hroom : roomIn (s.view L) ((s.view L).inode d) name.length = some (b, off))
    (hname : GoodName name) (hlt : n < 4294967296) (hn0 : n ≠ 0)
    (habs : name ∉ (dirListing (s.view L) ((s.view L).inode d)).keys) :
    dirLookup t d name = some n ∧ ∀ c, c ≠ name →
      (Clobbers (fileData (s.view L) ((s.view L).inode d) b) off name →
        c ≠ recordName (fileData (s.view L) ((s.view L).inode d) b)
          (off + entRecLen (fileData (s.view L) ((s.view L).inode d) b) off)) →
      dirLookup t d c = dirLookup s d c := by
  have hdir := hs.dirs d hd
  obtain ⟨hb, hoff, hhas⟩ := roomIn_eq_some hroom
  have hblk := hdir.blocks b hb
  have hlook := dirLookup_blockWritten hs hd h
    (hblk.splitEntry_blockOk hoff hname hhas hlt hn0 fileType)
  obtain ⟨X, Y, hold, hnew⟩ := h.listing hdir.toDirShape hb
  by_cases hclob : Clobbers (fileData (s.view L) ((s.view L).inode d) b) off name
  · obtain ⟨A, B, hA, hB⟩ := hblk.splitEntry_clobbers hoff hname hhas hlt hn0 fileType hclob
    rw [hold, hA] at habs
    simp only [List.keys_append, List.mem_append, not_or] at habs
    constructor
    · rw [hlook, hnew, hB]
      simp only [List.append_assoc, List.dlookup_append, List.dlookup_eq_none.mpr habs.1,
        List.dlookup_eq_none.mpr habs.2.1.1, Option.none_or, List.cons_append,
        List.dlookup_cons_eq]
    · intro c hc hne
      have hne := hne hclob
      rw [hlook, hs.dirLookup hd, hnew, hold, hA, hB]
      generalize recordName (fileData (s.view L) ((s.view L).inode d) b)
        (off + entRecLen (fileData (s.view L) ((s.view L).inode d) b) off) = c' at hne
      have hskip : ∀ (c' : CString) (x : Nat) (l : Listing), c ≠ c' →
          List.dlookup c (⟨c', x⟩ :: l) = l.dlookup c := fun c' x l h =>
        List.dlookup_cons_ne l ⟨c', x⟩ h
      simp only [List.append_assoc, List.cons_append, List.dlookup_append, hskip _ _ _ hc,
        hskip _ _ _ hne]
      split_ifs
      · rfl
      · rw [hskip _ _ _ hne]
        rfl
  · have hins := splitEntry_inserted h hdir.records hroom hname hlt hn0 hclob
    constructor
    · rw [hlook, hins.dlookup_self habs]
    · intro c hc _
      rw [hlook, hins.dlookup_ne hc, hs.dirLookup hd]

/-- A directory that grows keeps its names, and has those of the new block that it did not have. -/
lemma dirLookup_grew (h : Grew L d buf s t) (name : CString) :
    dirLookup t d name = (dirLookup s d name).or
      ((findEntry s buf name).map (entInode buf)) := by
  have hok := (hs.dirs d hd).toDirShape
  rw [dirLookup_blocks h.inOrder (h.isDirectory hd) (h.dirShape hok), h.blockCount_eq hok,
    List.range_succ, List.findSome?_append, dirLookup_blocks hs.toInOrder hd hok]
  have hfirst : ((List.range (blockCount ((s.view L).inode d).size)).findSome? fun b =>
      (findEntry t (fileData (t.view L) ((t.view L).inode d) b) name).map
        (entInode (fileData (t.view L) ((t.view L).inode d) b))) =
      (List.range (blockCount ((s.view L).inode d).size)).findSome? fun b =>
        (findEntry s (fileData (s.view L) ((s.view L).inode d) b) name).map
          (entInode (fileData (s.view L) ((s.view L).inode d) b)) := by
    apply findSome?_congr
    intro b hb
    rw [h.fileData b (List.mem_range.mp hb), findEntry_stack h.becomes.stack]
  rw [hfirst, List.findSome?_singleton, h.lastData, findEntry_stack h.becomes.stack]

end

end NeuroSpark
