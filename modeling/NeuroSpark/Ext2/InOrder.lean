import NeuroSpark.Lib.Machine
import NeuroSpark.Ext2.Updates

/-!
# Block ownership along runs

What the operations of the driver keep of an image in order.
-/

namespace NeuroSpark

open Word Ext2View

variable {L : Ext2Layout} {n : Nat} {s s' s'' : Ext2} {i : Ext2Inode} {v : Ext2View}

/-- A mounted image with the layout `L` in which every block has at most one owner. -/
structure Ext2.InOrder (L : Ext2Layout) (s : Ext2) : Prop where
  layout : s.HasLayout L
  owned : (s.view L).Owned (L.IsMeta s.mount)

/-- The inode is marked used in its bitmap. -/
def inodeLive (s : Ext2) (inodeNum : Nat) : Bool :=
  match inodeGroupAndOffset s.mount inodeNum with
  | none => false
  | some (group, index) =>
    match readGroupDesc s group with
    | none => false
    | some gd =>
      match readBlock s gd.inodeBitmap with
      | none => false
      | some bitmap => bitTest bitmap index

lemma inodeLive_eq (hs : s.HasLayout L) (n : Nat) : inodeLive s n = (s.view L).inodeUsed n := by
  by_cases hn : ValidInode s.mount n
  · simp only [inodeLive, inodeGroupAndOffset_of_valid hn,
      readGroupDesc_eq hs (hs.fits.inode_lt_groupDescCount hn), readBlock_eq hs.healthy, Ext2.view,
      Ext2Layout.view, hn, decide_true, Bool.true_and]
  · simp only [inodeLive, inodeGroupAndOffset_of_not_valid hn, Ext2.view, Ext2Layout.view, hn,
      decide_false, Bool.false_and]

/-- An inode whose blocks a call changes is live and has block pointers. -/
def TargetOk (s : Ext2) (inodeNum : Nat) : Prop :=
  ∀ inode, readInode s inodeNum = some inode → inodeLive s inodeNum = true ∧ ¬ inode.InlineSymlink

/-- A directory whose entries a call changes is live. -/
def ParentOk (s : Ext2) (dirInodeNum : Nat) : Prop :=
  ∀ inode, readDirInode s dirInodeNum = some inode → inodeLive s dirInodeNum = true

lemma TargetOk.owner (h : TargetOk s n) (hs : s.HasLayout L) (hi : readInode s n = some i) :
    (s.view L).Owner n ∧ i = (s.view L).inode n := by
  obtain ⟨-, rfl⟩ := readInode_eq_some hs hi
  obtain ⟨hl, hsym⟩ := h _ hi
  exact ⟨⟨(inodeLive_eq hs n).symm.trans hl, hsym⟩, rfl⟩

lemma Ext2.Becomes.inOrder (h : s.Becomes s' L v) (ho : (s'.view L).Owned (L.IsMeta s.mount)) :
    s'.InOrder L := ⟨h.layout, by rw [h.mount]; exact ho⟩

lemma Grown.inOrder (h : Grown L n s s') : s'.InOrder L := h.becomes.inOrder h.owned

lemma Rewritten.inOrder (h : Rewritten L s s') : s'.InOrder L := h.becomes.inOrder h.owned

@[simp] lemma view_setHandle (s : Ext2) (h : Nat) (x : Ext2Handle) :
    (s.setHandle h x).view L = s.view L := rfl

section

variable (hs : s.InOrder L)
include hs

lemma Ext2.InOrder.setHandle (h : Nat) (x : Ext2Handle) : (s.setHandle h x).InOrder L :=
  ⟨⟨hs.layout.healthy, hs.layout.fits, hs.layout.desc⟩, hs.owned⟩

lemma dirAddEntry_grown' {d : Nat} (hd : ParentOk s d) (name : CString)
    (inodeNum fileType : Nat) : Grown L d s (dirAddEntry s d name inodeNum fileType).1 := by
  cases hdir : readDirInode s d with
  | none =>
    rw [dirAddEntry, hdir]
    exact .refl hs.layout hs.owned
  | some dirInode =>
    have hlive := (inodeLive_eq hs.layout d).symm.trans (hd _ hdir)
    exact dirAddEntry_grown hs.layout hs.owned hlive name inodeNum fileType

lemma dirRemoveEntry_rewritten' {d : Nat} (hd : ParentOk s d) (name : CString) :
    Rewritten L s (dirRemoveEntry s d name).1 := by
  cases hdir : readDirInode s d with
  | none =>
    rw [dirRemoveEntry, hdir]
    exact .refl hs.layout hs.owned
  | some dirInode =>
    have hlive := (inodeLive_eq hs.layout d).symm.trans (hd _ hdir)
    exact dirRemoveEntry_rewritten hs.layout hs.owned hlive name

omit hs in
lemma ParentOk.of_view (hs : s.HasLayout L) (hs' : s'.HasLayout L) (hm : s'.mount = s.mount)
    {d : Nat} (hd : ParentOk s d)
    (hused : (s.view L).inodeUsed d = true → (s'.view L).inodeUsed d = true)
    (hmode : ((s'.view L).inode d).mode = ((s.view L).inode d).mode) : ParentOk s' d := by
  intro inode hdir
  obtain ⟨hvalid, rfl, hisDir⟩ := readDirInode_eq hs' hdir
  rw [hm] at hvalid
  have hdir' : readDirInode s d = some ((s.view L).inode d) := by
    rw [readDirInode, readInode_eq hs hvalid]
    simp only [Option.filter_some]
    rw [if_pos]
    rw [Ext2Inode.isDir] at hisDir ⊢
    rwa [hmode] at hisDir
  rw [inodeLive_eq hs']
  exact hused ((inodeLive_eq hs d).symm.trans (hd _ hdir'))

lemma freeInode_inOrder (hn : ValidInode s.mount n) : (freeInode s n).InOrder L := by
  have hb := freeInode_spec hs.layout hn
  refine hb.inOrder ?_
  rw [hb.view]
  refine Owned.dropInode (i := (s.view L).inode n) ?_
  rw [withInode_self]
  exact hs.owned

lemma working_new (hb : s.Becomes s' L
      { s.view L with inodeUsed := Function.update (s.view L).inodeUsed n true })
    (hblock : ∀ k, i.block k = 0) (hsym : ¬ i.InlineSymlink) : Working L n s' i := by
  refine ⟨hb.layout, ?_, hsym, ?_⟩
  · rw [hb.view]
    exact Function.update_self _ _ _
  · rw [hb.view, hb.mount]
    refine hs.owned.newInode (Or.inr fun sl => ?_)
    cases sl with
    | ptr k => exact hblock k
    | entry j => simp only [slot, hblock 12, if_true]

omit hs in
lemma Working.store (hk : Working L n s i) :
    (writeInode s n i).2 = true ∧ (writeInode s n i).1.InOrder L ∧
      (writeInode s n i).1.view L = (s.view L).withInode n i ∧
      s.Becomes (writeInode s n i).1 L ((writeInode s n i).1.view L) := by
  obtain ⟨hok, hb⟩ := writeInode_spec hk.layout (inodeUsed_valid hk.live) i
  have hview : (writeInode s n i).1.view L = (s.view L).withInode n i := hb.view
  refine ⟨hok, hb.inOrder ?_, hview, hb.self⟩
  rw [hview]
  exact hk.owned

omit hs in
lemma Working.drop (hk : Working L n s i) : (freeInode s n).InOrder L := by
  have hb := freeInode_spec hk.layout (inodeUsed_valid hk.live)
  refine hb.inOrder ?_
  rw [hb.view]
  exact hk.owned.dropInode

omit hs in
lemma parentOk_of_live (hs : s.HasLayout L) {d : Nat} (hd : (s.view L).inodeUsed d = true) :
    ParentOk s d := fun _ _ => (inodeLive_eq hs d).trans hd

lemma ParentOk.of_new {d : Nat} (hd : ParentOk s d) (hs' : s'.InOrder L) (hm : s'.mount = s.mount)
    (hnew : (s'.view L).inodeUsed n = true)
    (hused : ∀ m, m ≠ n → (s'.view L).inodeUsed m = (s.view L).inodeUsed m)
    (hinode : ∀ m, m ≠ n → (s'.view L).inode m = (s.view L).inode m) : ParentOk s' d := by
  by_cases hdn : d = n
  · subst hdn
    exact parentOk_of_live hs'.layout hnew
  · exact hd.of_view hs.layout hs'.layout hm (fun h => (hused d hdn).trans h) (by rw [hinode d hdn])

lemma ext2Create_inOrder {d : Nat} (hd : ParentOk s d) (leaf : CString) :
    (ext2Create s d leaf).1.InOrder L ∧
      ∀ n, (ext2Create s d leaf).2 = .ok n → ((ext2Create s d leaf).1.view L).Owner n := by
  have hmode : ∀ j : Ext2Inode, j.mode = (Ext2Inode.fresh (ext2SIfreg ||| 0o644) 0 1 0).mode →
      ¬ j.InlineSymlink := by
    intro j hj hsym
    rw [Ext2Inode.InlineSymlink, hj, Ext2Inode.mode_fresh] at hsym
    exact absurd hsym.1 (by decide)
  unfold ext2Create
  rcases allocInode_spec hs.layout with hnone | ⟨n, hsome, hvalid, hfree, hb⟩
  · rw [hnone]
    exact ⟨hs, fun n hn => by cases hn⟩
  · dsimp only
    rw [hsome]
    dsimp only
    rw [if_neg (hvalid.not_badNum hs.layout.fits)]
    have hk := working_new hs hb (fun k => Ext2Inode.block_fresh _ _ _ _ k) (hmode _ rfl)
    obtain ⟨hok, hw, hview, hbw⟩ := hk.store
    have hbec := hb.trans hbw
    generalize writeInode (allocInode s).1 n (Ext2Inode.fresh (ext2SIfreg ||| 0o644) 0 1 0) = w
      at hok hw hview hbec ⊢
    simp only [hok, Bool.not_true, Bool.false_eq_true, if_false]
    have hlive : (w.1.view L).inodeUsed n = true := by
      rw [hview]
      exact hk.live
    have hdw : ParentOk w.1 d := by
      refine hd.of_new hs hw hbec.mount hlive (fun m hm => ?_) fun m hm => ?_
      · rw [hview, hb.view]
        exact Function.update_of_ne hm _ _
      · rw [hview, withInode_inode_of_ne _ _ hm, hb.view]
    have hgrown := dirAddEntry_grown' hw hdw leaf n ext2FtRegFile
    have hvalid' : ValidInode (dirAddEntry w.1 d leaf n ext2FtRegFile).1.mount n := by
      rw [hgrown.becomes.mount, hbec.mount]
      exact hvalid
    split
    · exact ⟨freeInode_inOrder hgrown.inOrder hvalid', fun n hn => by cases hn⟩
    · refine ⟨hgrown.inOrder, fun n' hn' => ?_⟩
      cases hn'
      refine ⟨(congrFun hgrown.inodeUsed n).trans hlive, hmode _ ?_⟩
      by_cases hdn : n = d
      · subst hdn
        rw [hgrown.mode, hview, withInode_inode_same]
      · rw [hgrown.inode n hdn, hview, withInode_inode_same]

omit hs in
lemma truncatesWell_zero (s : Ext2) (i : Ext2Inode) : TruncatesWell s i 0 := by
  intro h
  exact absurd h (by simp [blockCount, u32, ext2BlockSize])

lemma ext2TruncateInode_inOrder {newSize : Nat}
    (hn : ∀ i, readInode s n = some i → (s.view L).Owner n ∧ TruncatesWell s i newSize) :
    (ext2TruncateInode s n newSize).1.InOrder L := by
  cases hi : readInode s n with
  | none =>
    rw [ext2TruncateInode, hi]
    exact hs
  | some i =>
    obtain ⟨ho, hok⟩ := hn i hi
    obtain ⟨-, rfl⟩ := readInode_eq_some hs.layout hi
    obtain ⟨-, hb, hown, -⟩ := ext2TruncateInode_spec hs.layout hs.owned ho hok
    exact hb.inOrder hown

lemma ext2OpenInode_inOrder {flags : UInt32}
    (hn : flags &&& vfsOTrunc ≠ 0 → ∀ i, readInode s n = some i → (s.view L).Owner n) :
    (ext2OpenInode s n flags).1.InOrder L := by
  unfold ext2OpenInode
  split
  · exact hs
  · have htrunc : (if flags &&& vfsOTrunc ≠ 0 then ext2TruncateInode s n 0 else (s, true)).1.InOrder
        L := by
      split
      · rename_i hflag
        exact ext2TruncateInode_inOrder hs fun i hi => ⟨hn hflag i hi, truncatesWell_zero s i⟩
      · exact hs
    generalize (if flags &&& vfsOTrunc ≠ 0 then ext2TruncateInode s n 0 else (s, true)) = t
      at htrunc ⊢
    dsimp only
    split
    · exact htrunc
    · split
      · exact htrunc
      · split
        · exact htrunc
        · exact htrunc.setHandle _ _

/-! ### Writing and truncating -/

omit hs in
lemma writeInode_setHandle (s : Ext2) (h : Nat) (x : Ext2Handle) (n : Nat) (i : Ext2Inode) :
    writeInode (s.setHandle h x) n i =
      ((writeInode s n i).1.setHandle h x, (writeInode s n i).2) := by
  have hplace : inodePlace (s.setHandle h x) n = inodePlace s n := rfl
  have hread : ∀ b, readBlock (s.setHandle h x) b = readBlock s b := fun _ => rfl
  simp only [writeInode, hplace, hread]
  split
  · rfl
  · split <;> rfl

lemma ext2Write_inOrder {h : Nat} (buf : List UInt8)
    (ht : s.IsOpen h → ext2Writable (s.handles h).flags → TargetOk s (s.handles h).inodeNum) :
    (ext2Write s h buf).1.InOrder L := by
  unfold ext2Write
  split
  · exact hs
  · rename_i hopen
    dsimp only
    split
    · exact hs
    · rename_i hwritable
      split
      · exact hs
      · rename_i inode hi
        obtain ⟨hn, rfl⟩ := (ht (not_not.mp hopen) (not_not.mp hwritable)).owner hs.layout hi
        have hext := ext2WriteLoop_extends (s.handles h).pos buf buf.length
          (hs.owned.working hs.layout hn) 0
        generalize ext2WriteLoop (s.handles h).pos buf buf.length s
          ((s.view L).inode (s.handles h).inodeNum) 0 = r at hext ⊢
        obtain ⟨t, i', total⟩ := r
        cases total with
        | none => exact hext.stop.inOrder
        | some total =>
          have hstore : ∀ j : Ext2Inode, j.mode = i'.mode → (∀ k, j.block k = i'.block k) →
              ((writeInode (t.setHandle h { s.handles h with
                pos := u32 ((s.handles h).pos + total) }) (s.handles h).inodeNum j).1).InOrder L := by
            intro j hmode hblock
            rw [writeInode_setHandle]
            exact (hext.store hn hmode hblock).2.1.inOrder.setHandle _ _
          generalize hpos : u32 ((s.handles h).pos + total) = pos at hstore
          have hmode : (if i'.size < pos then i'.setSize pos else i').mode = i'.mode := by
            split_ifs
            · rw [Ext2Inode.mode_setSize]
            · rfl
          have hblock : ∀ k, (if i'.size < pos then i'.setSize pos else i').block k =
              i'.block k := by
            intro k
            split_ifs
            · rw [Ext2Inode.block_setSize]
            · rfl
          dsimp only
          rw [hpos]
          generalize (if i'.size < pos then i'.setSize pos else i') = j at hmode hblock ⊢
          have hj := hstore (j.setBlocks (u32 (j.size + 511) / 512))
            (by rw [Ext2Inode.mode_setBlocks, hmode])
            fun k => by rw [Ext2Inode.block_setBlocks, hblock]
          split <;> exact hj

/-- The inode that a truncation changes. -/
def TruncateOk (s : Ext2) (inodeNum newSize : Nat) : Prop :=
  ∀ inode, readInode s inodeNum = some inode → inodeLive s inodeNum = true ∧
    ¬ inode.InlineSymlink ∧ TruncatesWell s inode newSize

omit hs in
lemma TruncateOk.owner {newSize : Nat} (h : TruncateOk s n newSize) (hs : s.HasLayout L) :
    ∀ i, readInode s n = some i → (s.view L).Owner n ∧ TruncatesWell s i newSize := by
  intro i hi
  obtain ⟨hl, hsym, ht⟩ := h i hi
  obtain ⟨-, rfl⟩ := readInode_eq_some hs hi
  exact ⟨⟨(inodeLive_eq hs n).symm.trans hl, hsym⟩, ht⟩

lemma ext2Ftruncate_inOrder {h size : Nat}
    (ht : s.IsOpen h → TruncateOk s (s.handles h).inodeNum size) :
    (ext2Ftruncate s h size).1.InOrder L := by
  unfold ext2Ftruncate
  split
  · exact hs
  · rename_i hopen
    have htr := ext2TruncateInode_inOrder hs ((ht (not_not.mp hopen)).owner hs.layout)
    dsimp only
    split
    · exact htr
    · exact htr.setHandle _ _

lemma ext2TruncatePath_inOrder {path : CString} {size : Nat}
    (ht : ∀ r, resolvePath s path = some r → r.inode ≠ 0 → TruncateOk s r.inode size) :
    (ext2TruncatePath s path size).1.InOrder L := by
  unfold ext2TruncatePath
  split
  · exact hs
  · rename_i r hr
    split
    · exact hs
    · rename_i hne
      have htr := ext2TruncateInode_inOrder hs ((ht r hr hne).owner hs.layout)
      dsimp only
      split <;> exact htr

/-! ### Deleting -/

lemma freeInode_released (hn : (s.view L).Owner n) {t : Ext2}
    (hrel : Releases L ((s.view L).inode n) s t) :
    s.Becomes (freeInode t n) L
        { s.view L with
          blockUsed := (t.view L).blockUsed
          inodeUsed := Function.update (s.view L).inodeUsed n false } ∧
      (freeInode t n).InOrder L ∧
      ∀ m sl p, ((freeInode t n).view L).held m sl = some p → (s.view L).held m sl = some p := by
  have hvalid : ValidInode t.mount n := by
    rw [hrel.becomes.mount]
    exact inodeUsed_valid hn.1
  have hb := hrel.becomes.trans (freeInode_spec hrel.becomes.layout hvalid)
  have hview : (freeInode t n).view L = { s.view L with
      blockUsed := (t.view L).blockUsed
      inodeUsed := Function.update (s.view L).inodeUsed n false } := by
    rw [hb.view, hrel.becomes.view]
  have hheld : ∀ m sl p, ((freeInode t n).view L).held m sl = some p →
      (s.view L).held m sl = some p ∧ m ≠ n := by
    intro m sl p hp
    have hm : m ≠ n := by
      rintro rfl
      have hu := (held_eq_some.mp hp).1.1
      rw [hview] at hu
      simp at hu
    refine ⟨?_, hm⟩
    rw [← hp, hview]
    exact (held_inodeUsed_of_ne (v := { s.view L with blockUsed := (t.view L).blockUsed }) hm
      false sl).symm
  refine ⟨hb.cast (by rw [← hview, hb.view]), hb.inOrder ?_, fun m sl p hp => (hheld m sl p hp).1⟩
  refine hs.owned.release hn hrel.frees (by rw [hview]) fun m sl p hp => ?_
  obtain ⟨hold, hm⟩ := hheld m sl p hp
  exact ⟨hold, fun he => absurd he hm⟩

lemma inodeClearBlocks_releases (hn : (s.view L).Owner n) :
    Releases L ((s.view L).inode n) s (inodeClearBlocks s ((s.view L).inode n)).1 :=
  (inodeClearBlocks_spec hs.layout (hs.owned.slotsOk hn)).1

/-- An entry is removed from a directory that was live before some inode was freed. -/
lemma dirRemoveEntry_after {d : Nat} (hd : ParentOk s d) (ht : s'.InOrder L)
    (hm : s'.mount = s.mount) (hinode : (s'.view L).inode = (s.view L).inode)
    (hdata : (s'.view L).data = (s.view L).data)
    (hheld : ∀ m sl p, (s'.view L).held m sl = some p → (s.view L).held m sl = some p)
    (name : CString) : Rewritten L s' (dirRemoveEntry s' d name).1 := by
  unfold dirRemoveEntry
  split
  · exact .refl ht.layout ht.owned
  · rename_i dirInode hdir
    obtain ⟨hvalid, rfl, hisDir⟩ := readDirInode_eq ht.layout hdir
    have hdir' : readDirInode s d = some ((s.view L).inode d) := by
      rw [hm] at hvalid
      rw [hinode] at hisDir
      rw [readDirInode, readInode_eq hs.layout hvalid]
      simp only [Option.filter_some, hisDir, if_true]
    have hn : (s.view L).Owner d := by
      refine ⟨(inodeLive_eq hs.layout d).symm.trans (hd _ hdir'), ?_⟩
      rw [← hinode]
      exact Ext2Inode.not_inlineSymlink_of_isDir hisDir
    have hslot : ∀ sl, (s'.view L).slot ((s'.view L).inode d) sl =
        (s.view L).slot ((s.view L).inode d) sl := by
      intro sl
      rw [hinode]
      exact slot_congr (fun _ => by rw [hdata]) sl
    have hi : SlotsOk L s' ((s'.view L).inode d) := by
      intro sl hsl
      rw [hslot] at hsl ⊢
      rw [hm]
      exact hs.owned.slotsOk hn sl hsl
    refine (dirRemoveEntryIn_rewrites ht.layout hi.indirectOk name _).rewritten ht.layout ht.owned hi
      fun sl hsl hne m hp => ?_
    rw [hslot] at hne hp
    exact hs.owned.ne_indirect (held_eq_some.mpr ⟨hn, rfl, hne⟩) hsl.ne_indirect m
      (hheld m _ _ hp)

lemma ext2Delete_inOrder {path : CString}
    (hok : ∀ r, resolvePath s path = some r → r.inode ≠ 0 → r.parent ≠ 0 →
      TargetOk s r.inode ∧ ParentOk s r.parent) :
    (ext2Delete s path).1.InOrder L := by
  unfold ext2Delete
  split
  · exact hs
  · rename_i r hr
    split
    · exact hs
    · rename_i hne
      rw [not_or] at hne
      obtain ⟨htarget, hparent⟩ := hok r hr hne.1 hne.2
      split
      · exact hs
      · rename_i inode hi
        obtain ⟨hn, rfl⟩ := htarget.owner hs.layout hi
        obtain ⟨hb, hio, hheld⟩ := freeInode_released hs hn (inodeClearBlocks_releases hs hn)
        have hrw := dirRemoveEntry_after hs hparent hio hb.mount (by rw [hb.view])
          (by rw [hb.view]) hheld r.leaf
        dsimp only
        split <;> exact hrw.inOrder

end

end NeuroSpark
