import NeuroSpark.Ext2.Freeing

/-!
# Writing files and directories

The loop of `ext2_write` and the functions that add and remove directory entries keep the image in
order, and leave every other inode as it is.
-/

namespace NeuroSpark

open Word Ext2View

variable {L : Ext2Layout} {n : Nat} {S W : PtrSlot → Prop} {s s' s'' : Ext2}
  {i i' j : Ext2Inode} {v : Ext2View} {d : Nat} {sl : PtrSlot}

/-- The slots in which a file has its blocks. -/
def IsFileSlot (sl : PtrSlot) : Prop := ∃ k, fileSlot k = some sl

lemma IsFileSlot.ne_indirect (h : IsFileSlot sl) : sl ≠ .ptr 12 := by
  obtain ⟨k, hk⟩ := h
  exact fileSlot_ne_ptr hk (by decide)

/-- Blocks were added to inode `n` and their data written; everything else is as it was. -/
structure Grown (L : Ext2Layout) (n : Nat) (s s' : Ext2) : Prop where
  becomes : s.Becomes s' L (s'.view L)
  owned : (s'.view L).Owned (L.IsMeta s.mount)
  inodeUsed : (s'.view L).inodeUsed = (s.view L).inodeUsed
  inode : ∀ m, m ≠ n → (s'.view L).inode m = (s.view L).inode m
  mode : ((s'.view L).inode n).mode = ((s.view L).inode n).mode
  ptrLe : PtrLe ((s.view L).inode n) ((s'.view L).inode n)

lemma Grown.refl (hs : s.HasLayout L) (ho : (s.view L).Owned (L.IsMeta s.mount)) : Grown L n s s :=
  ⟨hs.becomes, ho, rfl, fun _ _ => rfl, rfl, .refl _⟩

lemma Extends.stop (h : Extends L n S W s ((s.view L).inode n) s' i') : Grown L n s s' where
  becomes := h.becomes
  owned := by
    have hown := Owned.of_ptrLe h.owned h.ptrLe fun hi => by
      rw [Ext2Inode.InlineSymlink, h.mode, h.size]
      exact hi
    rw [← h.inode, withInode_self] at hown
    exact hown
  inodeUsed := h.inodeUsed
  inode m _ := congrFun h.inode m
  mode := by rw [h.inode]
  ptrLe := by
    rw [h.inode]
    exact .refl _

lemma Extends.store (h : Extends L n S W s ((s.view L).inode n) s' i') (hn : (s.view L).Owner n)
    (hmode : j.mode = i'.mode) (hblock : ∀ k, j.block k = i'.block k) :
    (writeInode s' n j).2 = true ∧ Grown L n s (writeInode s' n j).1 ∧
      ((writeInode s' n j).1.view L) = (s'.view L).withInode n j := by
  have hvalid : ValidInode s'.mount n := by
    rw [h.becomes.mount]
    exact inodeUsed_valid hn.1
  obtain ⟨hok, hb⟩ := writeInode_spec h.becomes.layout hvalid j
  have hview : (writeInode s' n j).1.view L = (s'.view L).withInode n j := hb.view
  refine ⟨hok, ⟨(h.becomes.trans hb).self, ?_, ?_, fun m hm => ?_, ?_, ?_⟩, hview⟩ <;> rw [hview]
  · refine Owned.of_ptrLe h.owned (.of_eq hblock) fun _ => ?_
    rw [Ext2Inode.InlineSymlink, h.mode, h.size]
    exact hn.2
  · exact h.inodeUsed
  · rw [withInode_inode_of_ne _ _ hm, h.inode]
  · rw [withInode_inode_same, hmode, h.mode]
  · rw [withInode_inode_same]
    exact h.ptrLe.trans (.of_eq fun k => (hblock k).symm)

lemma GotBlock.read (hk : Working L n s' i') {b : Nat}
    (hg : GotBlock L s i sl s' i' b) : readBlock s' b = some ((s'.view L).data b) := by
  obtain ⟨hgood, rfl, -⟩ := hg
  have hne : (s'.view L).slot i' sl ≠ 0 := fun h0 => hgood (Or.inl h0)
  obtain ⟨hused, hmeta⟩ := slot_dataBlock hk sl hne
  exact readBlock_data hk.layout (blockUsed_valid hused).2 hmeta

lemma GotBlock.write (hk : Working L n s' i') (hsl : IsFileSlot sl) {b : Nat}
    (hg : GotBlock L s i sl s' i' b) (buf : Ext2Block) :
    Extends L n S IsFileSlot s' i' (writeBlock s' b buf) i' ∧
      (writeBlock s' b buf).view L =
        { s'.view L with data := Function.update (s'.view L).data b buf } := by
  obtain ⟨hgood, rfl, -⟩ := hg
  have hne : (s'.view L).slot i' sl ≠ 0 := fun h0 => hgood (Or.inl h0)
  exact Extends.write hk hsl.ne_indirect hsl hne buf

lemma getBlock_extends (hk : Working L n s i) (index : Nat) :
    Extends L n IsFileSlot IsFileSlot s i (inodeGetBlock s i index true).1
        (inodeGetBlock s i index true).2.1 ∧
      (BadNum (inodeGetBlock s i index true).2.2 ∨
        ∃ sl, IsFileSlot sl ∧ GotBlock L s i sl (inodeGetBlock s i index true).1
          (inodeGetBlock s i index true).2.1 (inodeGetBlock s i index true).2.2) := by
  obtain ⟨hext, hres⟩ := inodeGetBlock_create (W := IsFileSlot) hk index
  refine ⟨hext.mono (fun sl hsl => ⟨index, hsl⟩) fun _ h => h, ?_⟩
  rcases hres with h0 | ⟨sl, hsl, hg⟩
  · exact Or.inl (Or.inl h0)
  · exact Or.inr ⟨sl, ⟨index, hsl⟩, hg⟩

lemma ext2WriteLoop_extends (pos : Nat) (src : List UInt8) (fuel : Nat) (hk : Working L n s i)
    (total : Nat) :
    Extends L n IsFileSlot IsFileSlot s i (ext2WriteLoop pos src fuel s i total).1
      (ext2WriteLoop pos src fuel s i total).2.1 := by
  induction fuel generalizing s i total with
  | zero => exact .refl hk
  | succ fuel ih =>
    rw [ext2WriteLoop]
    split
    · obtain ⟨hext, hres⟩ := getBlock_extends hk (u32 (pos + total) / ext2BlockSize)
      have hk' := hext.working hk
      dsimp only
      split
      · exact hext
      · rename_i hgood
        obtain ⟨sl, hsl, hg⟩ := hres.resolve_left hgood
        have hext' := fun buf => hext.trans (hg.write hk' hsl buf).1
        exact (hext' _).trans (ih ((hext' _).working hk) _)
    · exact .refl hk

lemma Ext2Inode.not_inlineSymlink_of_isDir (h : i.isDir = true) : ¬ i.InlineSymlink := by
  rintro ⟨hsym, -⟩
  have hmask : i.mode &&& ext2SIfdir = i.mode &&& 0xF000 &&& ext2SIfdir := by
    rw [Nat.and_assoc]
    rfl
  rw [Ext2Inode.isDir, hmask, hsym] at h
  exact absurd h (by decide)

lemma readDirInode_eq (hs : s.HasLayout L) (hi : readDirInode s d = some i) :
    ValidInode s.mount d ∧ i = (s.view L).inode d ∧ i.isDir = true := by
  rw [readDirInode, Option.filter_eq_some_iff] at hi
  obtain ⟨hv, rfl⟩ := readInode_eq_some hs hi.1
  exact ⟨hv, rfl, hi.2⟩

lemma dirAddEntryFrom_grown (hk : Working L d s ((s.view L).inode d)) (name : CString)
    (inodeNum fileType count fuel : Nat)
    (hext : Extends L d IsFileSlot IsFileSlot s ((s.view L).inode d) s' i') (b : Nat) :
    Grown L d s (dirAddEntryFrom d name inodeNum fileType count fuel s' i' b).1 := by
  have hn : (s.view L).Owner d := ⟨hk.live, hk.notInline⟩
  induction fuel generalizing s' i' b with
  | zero => exact hext.stop
  | succ fuel ih =>
    rw [dirAddEntryFrom]
    obtain ⟨hget, hres⟩ := getBlock_extends (hext.working hk) b
    have hext := hext.trans hget
    dsimp only
    have hkt := hext.working hk
    split
    · exact hext.stop
    · rename_i hgood
      obtain ⟨sl, hsl, hg⟩ := hres.resolve_left hgood
      rw [hg.read hkt]
      have hwrite := fun buf => hext.trans (hg.write hkt hsl buf).1
      dsimp only
      split
      · split
        · exact ((hwrite _).store hn (Ext2Inode.mode_setSize _ _)
            fun k => Ext2Inode.block_setSize _ _ _).2.1
        · exact (hwrite _).stop
      · split
        · exact ((hwrite _).store hn (Ext2Inode.mode_setSize _ _)
            fun k => Ext2Inode.block_setSize _ _ _).2.1
        · exact ih hext (b + 1)

lemma dirAddEntry_grown (hs : s.HasLayout L) (ho : (s.view L).Owned (L.IsMeta s.mount))
    (hlive : (s.view L).inodeUsed d = true) (name : CString) (inodeNum fileType : Nat) :
    Grown L d s (dirAddEntry s d name inodeNum fileType).1 := by
  unfold dirAddEntry
  split
  · exact .refl hs ho
  · rename_i dirInode hdir
    obtain ⟨-, rfl, hisDir⟩ := readDirInode_eq hs hdir
    have hk := ho.working hs ⟨hlive, Ext2Inode.not_inlineSymlink_of_isDir hisDir⟩
    exact dirAddEntryFrom_grown hk _ _ _ _ _ (.refl hk) 0

/-- A block of a file of `d` was written, or nothing happened. -/
def Rewrites (L : Ext2Layout) (d : Nat) (s s' : Ext2) : Prop :=
  s' = s ∨ ∃ sl buf, IsFileSlot sl ∧ (s.view L).slot ((s.view L).inode d) sl ≠ 0 ∧
    s' = writeBlock s ((s.view L).slot ((s.view L).inode d) sl) buf

lemma fileBlock_eq_slot {index : Nat} (h : fileBlock v i index ≠ 0) :
    ∃ sl, fileSlot index = some sl ∧ v.slot i sl = fileBlock v i index := by
  unfold fileBlock at h ⊢
  cases hsl : fileSlot index with
  | none =>
    rw [hsl] at h
    exact absurd rfl h
  | some sl => exact ⟨sl, rfl, rfl⟩

lemma dirBlock_eq (hs : s.HasLayout L) (hi : IndirectOk L s.mount i) {b p : Nat} {blk : Ext2Block}
    (h : dirBlock s i b = some (p, blk)) :
    fileBlock (s.view L) i b = p ∧ ¬ BadNum p ∧ readBlock s p = some blk := by
  unfold dirBlock at h
  rw [inodeGetBlock_lookup hs hi] at h
  dsimp only at h
  split_ifs at h with hbad
  simp only [Option.map_eq_some_iff, Prod.mk.injEq] at h
  obtain ⟨blk', hread, rfl, rfl⟩ := h
  exact ⟨rfl, hbad, hread⟩

lemma dirRemoveEntryIn_rewrites (hs : s.HasLayout L)
    (hi : IndirectOk L s.mount ((s.view L).inode d)) (name : CString) (bs : List Nat) :
    Rewrites L d s (dirRemoveEntryIn s ((s.view L).inode d) name bs).1 := by
  induction bs with
  | nil => exact Or.inl rfl
  | cons b bs ih =>
    rw [dirRemoveEntryIn]
    split
    · exact ih
    · rename_i p blk hblk
      split
      · rename_i prev off _
        obtain ⟨hp, hgood, -⟩ := dirBlock_eq hs hi hblk
        have hne : fileBlock (s.view L) ((s.view L).inode d) b ≠ 0 := by
          rw [hp]
          exact fun h0 => hgood (Or.inl h0)
        obtain ⟨sl, hsl, he⟩ := fileBlock_eq_slot hne
        refine Or.inr ⟨sl, dropEntry blk prev off, ⟨b, hsl⟩, he ▸ hne, ?_⟩
        rw [he, hp]
      · exact ih

/-- Data were written, and the pointers are as they were. -/
structure Rewritten (L : Ext2Layout) (s s' : Ext2) : Prop where
  becomes : s.Becomes s' L (s'.view L)
  owned : (s'.view L).Owned (L.IsMeta s.mount)
  inodeUsed : (s'.view L).inodeUsed = (s.view L).inodeUsed
  inode : (s'.view L).inode = (s.view L).inode

lemma Rewritten.refl (hs : s.HasLayout L) (ho : (s.view L).Owned (L.IsMeta s.mount)) :
    Rewritten L s s := ⟨hs.becomes, ho, rfl, rfl⟩

lemma Rewrites.rewritten (h : Rewrites L d s s') (hs : s.HasLayout L)
    (ho : (s.view L).Owned (L.IsMeta s.mount)) (hi : SlotsOk L s ((s.view L).inode d))
    (hno : ∀ sl, IsFileSlot sl → (s.view L).slot ((s.view L).inode d) sl ≠ 0 →
      ∀ m, (s.view L).held m (.ptr 12) ≠ some ((s.view L).slot ((s.view L).inode d) sl)) :
    Rewritten L s s' := by
  rcases h with rfl | ⟨sl, buf, hsl, hne, rfl⟩
  · exact .refl hs ho
  · obtain ⟨hvalid, hmeta⟩ := hi sl hne
    have hb := writeBlock_data hs hvalid.2 hmeta buf
    have hv := hb.view
    refine ⟨hb.self, ?_, ?_, ?_⟩ <;> rw [hv]
    exact ho.setData (hno sl hsl hne) buf

/-- Removing an entry from a live directory. -/
theorem dirRemoveEntry_rewritten (hs : s.HasLayout L) (ho : (s.view L).Owned (L.IsMeta s.mount))
    (hlive : (s.view L).inodeUsed d = true) (name : CString) :
    Rewritten L s (dirRemoveEntry s d name).1 := by
  unfold dirRemoveEntry
  split
  · exact .refl hs ho
  · rename_i dirInode hdir
    obtain ⟨-, rfl, hisDir⟩ := readDirInode_eq hs hdir
    have hn : (s.view L).Owner d := ⟨hlive, Ext2Inode.not_inlineSymlink_of_isDir hisDir⟩
    have hi := ho.slotsOk hn
    refine (dirRemoveEntryIn_rewrites hs hi.indirectOk name _).rewritten hs ho hi ?_
    intro sl hsl hne
    exact ho.ne_indirect (held_eq_some.mpr ⟨hn, rfl, hne⟩) hsl.ne_indirect

lemma Ext2View.Owned.newInode {isMeta : Nat → Prop} (h : v.Owned isMeta)
    (hi : i.InlineSymlink ∨ ∀ sl, v.slot i sl = 0) :
    (withInode { v with inodeUsed := Function.update v.inodeUsed n true } n i).Owned isMeta := by
  refine ⟨h.exclusive.mono (fun m sl p hp => ?_) fun _ _ _ _ hu => hu, h.metaUsed⟩
  by_cases hm : m = n
  · subst hm
    obtain ⟨-, hsym, hsl, hp0⟩ := held_withInode_same.mp hp
    rcases hi with hin | hz
    · exact absurd hin hsym
    · exact absurd (hsl.symm.trans (hz sl)) hp0
  · rw [held_withInode_of_ne hm] at hp
    exact (held_inodeUsed_of_ne hm true sl).symm.trans hp

lemma Ext2View.Owned.dropInode {isMeta : Nat → Prop} (h : (v.withInode n i).Owned isMeta) :
    ({ v with inodeUsed := Function.update v.inodeUsed n false } : Ext2View).Owned isMeta := by
  refine ⟨h.exclusive.mono (fun m sl p hp => ?_) fun _ _ _ _ hu => hu, h.metaUsed⟩
  by_cases hm : m = n
  · subst hm
    obtain ⟨⟨hu, -⟩, -, -⟩ := held_eq_some.mp hp
    simp at hu
  · rw [held_withInode_of_ne hm]
    exact (held_inodeUsed_of_ne hm false sl).symm.trans hp

end NeuroSpark
