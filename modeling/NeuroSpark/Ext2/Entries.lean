import NeuroSpark.Ext2.InOrder

/-!
# Block ownership: operations on directories

Renaming, linking, and the creation and removal of directories and symbolic links keep an image in
order. A new inode is built in memory, gets its block, is stored and then entered into its
directory; where that fails the block and the inode are given back.
-/

namespace NeuroSpark

open Word Ext2View

variable {L : Ext2Layout} {n d : Nat} {s s' : Ext2} {i : Ext2Inode} {r : Resolved}

lemma Grown.parentOk (h : Grown L n s s') (hs : s.HasLayout L) (hd : ParentOk s d) :
    ParentOk s' d := by
  refine hd.of_view hs h.becomes.layout h.becomes.mount (fun hu => by rwa [h.inodeUsed]) ?_
  by_cases hdn : d = n
  · rw [hdn, h.mode]
  · rw [h.inode d hdn]

lemma Rewritten.parentOk (h : Rewritten L s s') (hs : s.HasLayout L) (hd : ParentOk s d) :
    ParentOk s' d :=
  hd.of_view hs h.becomes.layout h.becomes.mount (fun hu => by rwa [h.inodeUsed]) (by rw [h.inode])

/-! ### Rename and link -/

section

variable (hs : s.InOrder L)
include hs

lemma ext2Rename_inOrder {oldPath newPath : CString}
    (hok : ∀ old new, resolvePath s oldPath = some old → resolvePath s newPath = some new →
      old.inode ≠ 0 → old.parent ≠ 0 → new.parent ≠ 0 → new.inode = 0 →
      ParentOk s old.parent ∧ ParentOk s new.parent) :
    (ext2Rename s oldPath newPath).1.InOrder L := by
  unfold ext2Rename
  split
  · rename_i old new hold hnew
    split
    · exact hs
    · rename_i hzero
      simp only [not_or] at hzero
      split
      · exact hs
      · rename_i hfree
        obtain ⟨hop, hnp⟩ := hok old new hold hnew hzero.1 hzero.2.1 hzero.2.2 (not_not.mp hfree)
        split
        · exact hs
        · rename_i inode _
          dsimp only
          generalize (if inode.isDir then ext2FtDir else ext2FtRegFile) = fileType
          have hadd := dirAddEntry_grown' hs hnp new.leaf old.inode fileType
          split
          · exact hadd.inOrder
          · have hrem := dirRemoveEntry_rewritten' hadd.inOrder (hadd.parentOk hs.layout hop) old.leaf
            split
            · -- the new entry is taken back
              have hundo := dirRemoveEntry_rewritten' hrem.inOrder
                (hrem.parentOk hadd.becomes.layout (hadd.parentOk hs.layout hnp)) new.leaf
              have hop' := hundo.parentOk hrem.becomes.layout
                (hrem.parentOk hadd.becomes.layout (hadd.parentOk hs.layout hop))
              exact (dirAddEntry_grown' hundo.inOrder hop' old.leaf old.inode fileType).inOrder
            · exact hrem.inOrder
  · exact hs

omit hs in
lemma dirAddEntry_not_dir (h : readDirInode s d = none) (name : CString) (inodeNum fileType : Nat) :
    dirAddEntry s d name inodeNum fileType = (s, false) := by
  rw [dirAddEntry, h]

lemma dirAddEntry_inode (hd : ParentOk s d) (name : CString) (inodeNum fileType : Nat)
    (hn : ((s.view L).inode n).isDir = false) :
    ((dirAddEntry s d name inodeNum fileType).1.view L).inode n = (s.view L).inode n := by
  cases hdir : readDirInode s d with
  | none => rw [dirAddEntry_not_dir hdir]
  | some dirInode =>
    refine (dirAddEntry_grown' hs hd name inodeNum fileType).inode n ?_
    rintro rfl
    obtain ⟨-, rfl, hisDir⟩ := readDirInode_eq hs.layout hdir
    rw [hn] at hisDir
    cases hisDir

lemma ext2Link_inOrder {oldPath newPath : CString}
    (hok : ∀ new, resolvePath s newPath = some new → new.parent ≠ 0 → ParentOk s new.parent) :
    (ext2Link s oldPath newPath).1.InOrder L := by
  unfold ext2Link
  split
  · exact hs
  · rename_i old _
    split
    · exact hs
    · split
      · exact hs
      · rename_i new hnew
        split
        · exact hs
        · rename_i hzero
          rw [not_or] at hzero
          have hnp := hok new hnew hzero.1
          split
          · exact hs
          · rename_i inode hi
            obtain ⟨hvalid, rfl⟩ := readInode_eq_some hs.layout hi
            split
            · exact hs
            · rename_i hdir
              have hadd := dirAddEntry_grown' hs hnp new.leaf old.inode ext2FtRegFile
              have hsame := dirAddEntry_inode hs hnp new.leaf old.inode ext2FtRegFile
                (Bool.not_eq_true _ ▸ hdir)
              dsimp only
              generalize dirAddEntry s new.parent new.leaf old.inode ext2FtRegFile = a
                at hadd hsame ⊢
              split
              · exact hadd.inOrder
              · have hvalid' : ValidInode a.1.mount old.inode := by
                  rw [hadd.becomes.mount]
                  exact hvalid
                have hio := hadd.inOrder
                obtain ⟨hw, hb, hown, -⟩ := writeInode_fields hio.layout hio.owned hvalid'
                  (i := ((s.view L).inode old.inode).setLinksCount
                    (((s.view L).inode old.inode).linksCount + 1))
                  (.of_eq fun k => by rw [Ext2Inode.block_setLinksCount, hsame])
                  (by rw [hsame, Ext2Inode.InlineSymlink, Ext2Inode.mode_setLinksCount,
                    Ext2Inode.size_setLinksCount]; exact fun h => h)
                rw [hw]
                exact hb.inOrder hown

omit hs in
lemma getFirstBlock (hk : Working L n s i) :
    Extends L n IsFileSlot IsFileSlot s i (inodeGetBlock s i 0 true).1
        (inodeGetBlock s i 0 true).2.1 ∧
      (BadNum (inodeGetBlock s i 0 true).2.2 ∨
        GotBlock L s i (.ptr 0) (inodeGetBlock s i 0 true).1
          (inodeGetBlock s i 0 true).2.1 (inodeGetBlock s i 0 true).2.2) := by
  obtain ⟨hext, hres⟩ := inodeGetBlock_create (W := IsFileSlot) hk 0
  refine ⟨hext.mono (fun sl hsl => ⟨0, hsl⟩) fun _ h => h, ?_⟩
  rcases hres with h0 | ⟨sl, hsl, hg⟩
  · exact Or.inl (Or.inl h0)
  · have hsl' : sl = .ptr 0 := (Option.some.inj hsl).symm
    exact Or.inr (hsl' ▸ hg)

omit hs in
lemma isFileSlot_first : IsFileSlot (.ptr 0) := ⟨0, rfl⟩

omit hs in
lemma Working.setFields {j : Ext2Inode} (hk : Working L n s i) (hmode : j.mode = i.mode)
    (hsize : j.size = i.size) (hblock : ∀ k, j.block k = i.block k) : Working L n s j := by
  have hsym : ¬ j.InlineSymlink ↔ ¬ i.InlineSymlink := by
    rw [Ext2Inode.InlineSymlink, hmode, hsize]
    rfl
  exact ⟨hk.layout, hk.live, hsym.mpr hk.notInline, hk.owned.of_ptrLe (.of_eq hblock) hsym.mp⟩

lemma ParentOk.of_store (hd : ParentOk s d) (hk : Working L n s' i) (hm : s'.mount = s.mount)
    (hused : ∀ m, m ≠ n → (s'.view L).inodeUsed m = (s.view L).inodeUsed m)
    (hinode : ∀ m, m ≠ n → (s'.view L).inode m = (s.view L).inode m) :
    ParentOk (writeInode s' n i).1 d := by
  obtain ⟨-, hio, hview, hb⟩ := hk.store
  refine hd.of_new (n := n) hs hio (hb.mount.trans hm) ?_ (fun m hne => ?_) fun m hne => ?_ <;>
    rw [hview]
  · exact hk.live
  · exact hused m hne
  · rw [withInode_inode_of_ne _ _ hne]
    exact hinode m hne

lemma freeInode_freeBlock (hn : (s.view L).Owner n) {b : Nat}
    (hb : ((s.view L).inode n).block 0 = b) (hb0 : b ≠ 0) :
    (freeInode (freeBlock s b) n).InOrder L := by
  subst hb
  have hslot : (s.view L).slot ((s.view L).inode n) (.ptr 0) = ((s.view L).inode n).block 0 := rfl
  have hrel := Releases.freeBlock (i := (s.view L).inode n) hs.layout (.ptr 0)
    (cleared_ptr (by decide)) hb0 (hs.owned.slotsOk hn (.ptr 0) hb0).1
  exact (freeInode_released hs hn (hslot ▸ hrel)).2.1

omit hs in
lemma Grown.owner (h : Grown L d s s') (hn : (s.view L).Owner n)
    (hsame : (s'.view L).inode n = (s.view L).inode n) : (s'.view L).Owner n :=
  ⟨(congrFun h.inodeUsed n).trans hn.1, by rw [hsame]; exact hn.2⟩

omit hs in
lemma Working.store_owner (hk : Working L n s i) : ((writeInode s n i).1.view L).Owner n ∧
    ((writeInode s n i).1.view L).inode n = i := by
  obtain ⟨-, -, hview, -⟩ := hk.store
  rw [hview]
  refine ⟨⟨hk.live, ?_⟩, withInode_inode_same _ _ _⟩
  rw [withInode_inode_same]
  exact hk.notInline

/-! ### Directories -/

omit hs in
lemma Ext2Inode.not_inlineSymlink_of_size (h : inlineTargetMax < i.size) : ¬ i.InlineSymlink :=
  fun hsym => Nat.not_le_of_lt h hsym.2

lemma ext2MkdirEnter_inOrder (hp : ParentOk s r.parent)
    (hisDir : ((s.view L).inode r.parent).isDir = true) (hvalid : ValidInode s.mount r.parent)
    (hne : r.parent ≠ n) (hk : Working L n s' i) {b : Nat} (hblock : i.block 0 = b) (hb0 : b ≠ 0)
    (hm : s'.mount = s.mount)
    (hused : ∀ m, m ≠ n → (s'.view L).inodeUsed m = (s.view L).inodeUsed m)
    (hinode : ∀ m, m ≠ n → (s'.view L).inode m = (s.view L).inode m) :
    (ext2MkdirEnter s' r ((s.view L).inode r.parent) n i b).1.InOrder L := by
  have hpw := hp.of_store hs hk hm hused hinode
  obtain ⟨hok, hio, hview, hbw⟩ := hk.store
  obtain ⟨hown, hin⟩ := hk.store_owner
  have hpin : ((writeInode s' n i).1.view L).inode r.parent = (s.view L).inode r.parent := by
    rw [hview, withInode_inode_of_ne _ _ hne, hinode _ hne]
  have hmount : (writeInode s' n i).1.mount = s.mount := hbw.mount.trans hm
  unfold ext2MkdirEnter
  generalize writeInode s' n i = w at hpw hok hio hown hin hpin hmount ⊢
  simp only [hok, Bool.not_true, Bool.false_eq_true, if_false]
  have hadd := dirAddEntry_grown' hio hpw r.leaf n ext2FtDir
  generalize dirAddEntry w.1 r.parent r.leaf n ext2FtDir = a at hadd ⊢
  have hsame := hadd.inode n hne.symm
  split
  · exact freeInode_freeBlock hadd.inOrder (hadd.owner hown hsame) (by rw [hsame, hin, hblock]) hb0
  · -- the parent is stored without the blocks that its new entry may have needed
    have hvalid' : ValidInode a.1.mount r.parent := by
      rw [hadd.becomes.mount, hmount]
      exact hvalid
    have hle : PtrLe (((s.view L).inode r.parent).setLinksCount
        (((s.view L).inode r.parent).linksCount + 1)) ((a.1.view L).inode r.parent) := by
      refine PtrLe.trans (.of_eq fun k => ?_) hadd.ptrLe
      rw [Ext2Inode.block_setLinksCount, hpin]
    have hpdir : ((a.1.view L).inode r.parent).isDir = true := by
      rw [Ext2Inode.isDir, hadd.mode, hpin]
      exact hisDir
    obtain ⟨-, hb, hown', -⟩ := writeInode_fields hadd.inOrder.layout hadd.inOrder.owned hvalid' hle
      fun _ => Ext2Inode.not_inlineSymlink_of_isDir hpdir
    exact hb.inOrder hown'

omit hs in
lemma Ext2.Becomes.inode_allocated (hb : s.Becomes s' L
      { s.view L with inodeUsed := Function.update (s.view L).inodeUsed n true }) :
    (∀ m, m ≠ n → (s'.view L).inodeUsed m = (s.view L).inodeUsed m) ∧
      (s'.view L).inode = (s.view L).inode := by
  rw [hb.view]
  exact ⟨fun m hm => Function.update_of_ne hm _ _, rfl⟩

lemma ext2Mkdir_inOrder {path : CString} (mode : Nat)
    (hok : ∀ r, resolvePath s path = some r → r.inode = 0 → r.parent ≠ 0 →
      ParentOk s r.parent) :
    (ext2Mkdir s path mode).1.InOrder L := by
  unfold ext2Mkdir
  split
  · exact hs
  · rename_i r hr
    split
    · exact hs
    · rename_i hnew
      split
      · exact hs
      · rename_i hzero
        rw [not_or] at hzero
        have hp := hok r hr (not_not.mp hnew) hzero.1
        split
        · exact hs
        · rename_i parent hparent
          have hlive := (inodeLive_eq hs.layout _).symm.trans (hp _ hparent)
          obtain ⟨hpvalid, rfl, hisDir⟩ := readDirInode_eq hs.layout hparent
          rcases allocInode_spec hs.layout with hnone | ⟨n, hsome, hvalid, hfree, hb⟩
          · rw [hnone]
            exact hs
          · have hne : r.parent ≠ n := by
              rintro rfl
              rw [hlive] at hfree
              cases hfree
            obtain ⟨hused, hinode⟩ := hb.inode_allocated
            dsimp only
            rw [hsome]
            dsimp only
            rw [if_neg (hvalid.not_badNum hs.layout.fits)]
            have hsize : (Ext2Inode.fresh (ext2SIfdir ||| (mode &&& 0o777)) ext2BlockSize 2
                (ext2BlockSize / 512)).size = 1024 := Ext2Inode.size_fresh _ _ _ (by decide)
            have hk := working_new (i := Ext2Inode.fresh (ext2SIfdir ||| (mode &&& 0o777))
              ext2BlockSize 2 (ext2BlockSize / 512)) hs hb
              (fun k => Ext2Inode.block_fresh _ _ _ _ k)
              (Ext2Inode.not_inlineSymlink_of_size (by rw [hsize]; decide))
            have hmount := hb.mount
            generalize (allocInode s).1 = t at hk hused hinode hmount ⊢
            generalize Ext2Inode.fresh (ext2SIfdir ||| (mode &&& 0o777)) ext2BlockSize 2
              (ext2BlockSize / 512) = i₀ at hk ⊢
            obtain ⟨hext, hres⟩ := getFirstBlock hk
            generalize inodeGetBlock t i₀ 0 true = g at hext hres ⊢
            split
            · exact (hext.working hk).drop
            · rename_i hgood
              have hg := hres.resolve_left hgood
              have hext := hext.trans
                (hg.write (hext.working hk) isFileSlot_first (newDirBlock n r.parent)).1
              exact ext2MkdirEnter_inOrder hs hp hisDir hpvalid hne (hext.working hk) hg.2.1
                (fun h0 => hgood (Or.inl h0)) (hext.becomes.mount.trans hmount)
                (fun m hm => by rw [hext.inodeUsed, hused m hm])
                fun m _ => by rw [hext.inode, hinode]

lemma ext2Rmdir_inOrder {path : CString}
    (hok : ∀ r, resolvePath s path = some r → r.inode ≠ 0 → r.parent ≠ 0 →
      ParentOk s r.inode ∧ ParentOk s r.parent) :
    (ext2Rmdir s path).1.InOrder L := by
  unfold ext2Rmdir
  split
  · exact hs
  · rename_i r hr
    split
    · exact hs
    · rename_i hzero
      rw [not_or] at hzero
      obtain ⟨hi, hp⟩ := hok r hr hzero.1 hzero.2
      split
      · exact hs
      · rename_i inode hdir
        have hlive := (inodeLive_eq hs.layout _).symm.trans (hi _ hdir)
        obtain ⟨hvalid, rfl, hisDir⟩ := readDirInode_eq hs.layout hdir
        split
        · exact hs
        · have hrem := dirRemoveEntry_rewritten' hs hp r.leaf
          dsimp only
          generalize dirRemoveEntry s r.parent r.leaf = e at hrem ⊢
          split
          · exact hrem.inOrder
          · have hn : (e.1.view L).Owner r.inode := by
              refine ⟨(congrFun hrem.inodeUsed _).trans hlive, ?_⟩
              rw [hrem.inode]
              exact Ext2Inode.not_inlineSymlink_of_isDir hisDir
            rw [← hrem.inode]
            obtain ⟨-, hio, -⟩ := freeInode_released hrem.inOrder hn
              (inodeClearBlocks_releases hrem.inOrder hn)
            generalize freeInode (inodeClearBlocks e.1 ((e.1.view L).inode r.inode)).1 r.inode = t
              at hio ⊢
            split
            · exact hio
            · rename_i parent hparent
              obtain ⟨hpvalid, rfl⟩ := readInode_eq_some hio.layout hparent
              split
              · obtain ⟨-, hb, hown, -⟩ := writeInode_fields hio.layout hio.owned hpvalid
                  (i := ((t.view L).inode r.parent).setLinksCount
                    (((t.view L).inode r.parent).linksCount - 1))
                  (.of_eq fun k => Ext2Inode.block_setLinksCount _ _ _)
                  (by rw [Ext2Inode.InlineSymlink, Ext2Inode.mode_setLinksCount,
                    Ext2Inode.size_setLinksCount]; exact fun h => h)
                exact hb.inOrder hown
              · exact hio

/-! ### Symbolic links -/

lemma ext2SymlinkEnter_inOrder (hp : ParentOk s r.parent) (hk : Working L n s' i)
    (hdir : i.isDir = false) (hm : s'.mount = s.mount)
    (hused : ∀ m, m ≠ n → (s'.view L).inodeUsed m = (s.view L).inodeUsed m)
    (hinode : ∀ m, m ≠ n → (s'.view L).inode m = (s.view L).inode m) :
    (ext2SymlinkEnter s' r n i).1.InOrder L := by
  have hpw := hp.of_store hs hk hm hused hinode
  obtain ⟨hok, hio, -, -⟩ := hk.store
  obtain ⟨hown, hin⟩ := hk.store_owner
  unfold ext2SymlinkEnter
  generalize writeInode s' n i = w at hpw hok hio hown hin ⊢
  simp only [hok, Bool.not_true, Bool.false_eq_true, if_false]
  have hadd := dirAddEntry_grown' hio hpw r.leaf n ext2FtUnknown
  have hsame := dirAddEntry_inode hio hpw r.leaf n ext2FtUnknown (n := n) (by rw [hin, hdir])
  split
  · have hn := hadd.owner hown hsame
    rw [← hin, ← hsame]
    exact (freeInode_released hadd.inOrder hn (inodeClearBlocks_releases hadd.inOrder hn)).2.1
  · exact hadd.inOrder

/-- The inode of a short symbolic link. -/
def inlineLink (target : CString) : Ext2Inode :=
  (Ext2Inode.fresh ext2SymlinkMode target.length 1 0).patch 40 target

omit hs in
lemma inlineLink_inline {target : CString} (h : target.length ≤ inlineTargetMax) :
    (inlineLink target).InlineSymlink := by
  have hle : target.length ≤ 60 := h
  have hsize : (inlineLink target).size = target.length := by
    rw [← Ext2Inode.size_fresh ext2SymlinkMode 1 0 (show target.length < 4294967296 by omega)]
    apply Bytes.le32_congr
    intro k hk
    exact Bytes.get_patch_of_lt _ _ (by omega)
  refine ⟨?_, hsize ▸ h⟩
  rw [inlineLink, Ext2Inode.mode_patch _ _ (by decide), Ext2Inode.mode_fresh]
  decide

lemma inlineLink_inOrder (hp : ParentOk s r.parent) (hvalid : ValidInode s.mount n)
    (hb : s.Becomes s' L
      { s.view L with inodeUsed := Function.update (s.view L).inodeUsed n true })
    {target : CString} (hshort : target.length ≤ inlineTargetMax)
    (hfits : (dirAddEntry (writeInode s' n (inlineLink target)).1 r.parent r.leaf n
      ext2FtUnknown).2 = true) :
    (ext2SymlinkEnter s' r n (inlineLink target)).1.InOrder L := by
  have hvalid' : ValidInode s'.mount n := by
    rw [hb.mount]
    exact hvalid
  obtain ⟨hok, hbw⟩ := writeInode_spec hb.layout hvalid' (inlineLink target)
  have hview : (writeInode s' n (inlineLink target)).1.view L =
      withInode { s.view L with inodeUsed := Function.update (s.view L).inodeUsed n true } n
        (inlineLink target) := by
    rw [hbw.view, hb.view]
    rfl
  have hio : (writeInode s' n (inlineLink target)).1.InOrder L := by
    refine (hb.trans hbw).inOrder ?_
    rw [hview]
    exact hs.owned.newInode (Or.inl (inlineLink_inline hshort))
  have hpw : ParentOk (writeInode s' n (inlineLink target)).1 r.parent := by
    refine hp.of_new (n := n) hs hio (hbw.mount.trans hb.mount) ?_ (fun m hm => ?_) fun m hm => ?_ <;>
      rw [hview]
    · exact Function.update_self _ _ _
    · exact Function.update_of_ne hm _ _
    · exact withInode_inode_of_ne _ _ hm
  unfold ext2SymlinkEnter
  simp only [hok, hfits, Bool.not_true, Bool.false_eq_true, if_false]
  exact (dirAddEntry_grown' hio hpw r.leaf n ext2FtUnknown).inOrder

/-- The entry of a short symbolic link is added. -/
def InlineEntryFits (s : Ext2) (target : CString) (r : Resolved) : Prop :=
  ∀ linkInode, (allocInode s).2 = some linkInode →
    (dirAddEntry (writeInode (allocInode s).1 linkInode (inlineLink target)).1 r.parent r.leaf
      linkInode ext2FtUnknown).2 = true

lemma ext2Symlink_inOrder {target linkPath : CString}
    (hok : ∀ r, resolvePath s linkPath = some r → r.inode = 0 → r.parent ≠ 0 →
      ParentOk s r.parent ∧ (target.length ≤ inlineTargetMax → InlineEntryFits s target r)) :
    (ext2Symlink s target linkPath).1.InOrder L := by
  unfold ext2Symlink
  split
  · exact hs
  · split
    · exact hs
    · rename_i r hr
      split
      · exact hs
      · rename_i hnew
        split
        · exact hs
        · rename_i hzero
          rw [not_or] at hzero
          obtain ⟨hp, hfits⟩ := hok r hr (not_not.mp hnew) hzero.1
          split
          · exact hs
          · rename_i hlen
            rcases allocInode_spec hs.layout with hnone | ⟨n, hsome, hvalid, hfree, hb⟩
            · rw [hnone]
              exact hs
            · obtain ⟨hused, hinode⟩ := hb.inode_allocated
              dsimp only
              rw [hsome]
              dsimp only
              rw [if_neg (hvalid.not_badNum hs.layout.fits)]
              split
              · rename_i hshort
                exact inlineLink_inOrder hs hp hvalid hb hshort (hfits hshort n hsome)
              · rename_i hlong
                have hsize : (Ext2Inode.fresh ext2SymlinkMode target.length 1 0).size =
                    target.length := Ext2Inode.size_fresh _ _ _ (by omega)
                have hdir : (Ext2Inode.fresh ext2SymlinkMode target.length 1 0).isDir = false := by
                  rw [Ext2Inode.isDir, Ext2Inode.mode_fresh]
                  decide
                have hk := working_new (i := Ext2Inode.fresh ext2SymlinkMode target.length 1 0) hs hb
                  (fun k => Ext2Inode.block_fresh _ _ _ _ k)
                  (Ext2Inode.not_inlineSymlink_of_size (by omega))
                have hmount := hb.mount
                generalize (allocInode s).1 = t at hk hused hinode hmount ⊢
                generalize Ext2Inode.fresh ext2SymlinkMode target.length 1 0 = i₀ at hk hdir ⊢
                obtain ⟨hext, hres⟩ := getFirstBlock hk
                generalize inodeGetBlock t i₀ 0 true = g at hext hres ⊢
                obtain ⟨t', i, b⟩ := g
                split
                · exact (hext.working hk).drop
                · rename_i hgood
                  have hg := hres.resolve_left hgood
                  have hext := hext.trans (hg.write (hext.working hk) isFileSlot_first
                    (Bytes.patch (Bytes.ofFun t'.stack) 0 target)).1
                  generalize writeBlock t' b _ = t' at hext ⊢
                  have hk' : Working L n t' (i.setBlocks (ext2BlockSize / 512)) :=
                    (hext.working hk).setFields (Ext2Inode.mode_setBlocks _ _)
                      (Ext2Inode.size_setBlocks _ _) (Ext2Inode.block_setBlocks _ · _)
                  refine ext2SymlinkEnter_inOrder hs hp hk' ?_ (hext.becomes.mount.trans hmount)
                    (fun m hm => by rw [hext.inodeUsed, hused m hm])
                    fun m _ => by rw [hext.inode, hinode]
                  rw [Ext2Inode.isDir, Ext2Inode.mode_setBlocks, hext.mode]
                  exact hdir

end

end NeuroSpark
