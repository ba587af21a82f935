import NeuroSpark.Ext2.Runs
import NeuroSpark.Ext2.Walk
import NeuroSpark.Ext2.Additions

/-!
# New inodes

`ext2_open`, `ext2_mkdir` and `ext2_symlink` build an inode in memory, give it the first free block
if it needs one and store it. After that the inode exists and no name leads to it yet: the
directories are as they were, and the free blocks are those that are left.
-/

namespace NeuroSpark

open Function (update update_self update_of_ne)
open Word Ext2View

variable {L : Ext2Layout} {n d taken : Nat} {s t u : Ext2} {i j : Ext2Inode} {v : Ext2View}
  {name : CString}

/-- The inode `n` was stored as `i`, with the first `taken` free blocks. -/
structure Prepared (L : Ext2Layout) (n taken : Nat) (i : Ext2Inode) (s t : Ext2) : Prop where
  becomes : s.Becomes t L (t.view L)
  inOrder : t.InOrder L
  valid : ValidInode s.mount n
  unused : (s.view L).inodeUsed n = false
  inodeUsed : (t.view L).inodeUsed = Function.update (s.view L).inodeUsed n true
  inode : (t.view L).inode = Function.update (s.view L).inode n i
  blockUsed : ∀ p, (t.view L).blockUsed p = true ↔
    (s.view L).blockUsed p = true ∨ p ∈ (freeBlocks s.mount (s.view L)).take taken
  data : ∀ p, p ∉ (freeBlocks s.mount (s.view L)).take taken →
    (t.view L).data p = (s.view L).data p
  freeBlocks : NeuroSpark.freeBlocks t.mount (t.view L) =
    (NeuroSpark.freeBlocks s.mount (s.view L)).drop taken

lemma readDirInode_of_not_dir (hs : s.HasLayout L) (hlive : (s.view L).inodeUsed d = true)
    (hd : ¬ IsDirectory (s.view L) d) : readDirInode s d = none := by
  by_contra hne
  obtain ⟨i, hi⟩ := Option.ne_none_iff_exists'.mp hne
  obtain ⟨-, rfl, hisDir⟩ := readDirInode_eq hs hi
  exact hd ⟨hlive, hisDir⟩

namespace Prepared

variable (h : Prepared L n taken i s t)
include h

variable {m : Nat}

lemma inode_self : (t.view L).inode n = i := by
  rw [h.inode]
  exact update_self _ _ _

lemma live : (t.view L).inodeUsed n = true := by
  rw [h.inodeUsed]
  exact update_self _ _ _

lemma inodeUsed_mono (hm : (s.view L).inodeUsed m = true) : (t.view L).inodeUsed m = true := by
  rw [h.inodeUsed]
  by_cases hmn : m = n
  · rw [hmn]
    exact update_self _ _ _
  · rwa [update_of_ne hmn]

lemma ne_of_live (hm : (s.view L).inodeUsed m = true) : m ≠ n := by
  rintro rfl
  exact Bool.false_ne_true (h.unused.symm.trans hm)

lemma data_of_used {p : Nat} (hp : (s.view L).blockUsed p = true) :
    (t.view L).data p = (s.view L).data p := by
  apply h.data
  intro hmem
  have hfree := (mem_freeBlocks.mp ((List.take_sublist _ _).subset hmem)).2
  exact Bool.false_ne_true (hfree.symm.trans hp)

lemma same (hs : s.InOrder L) (hm : m ≠ n) : SameFile (s.view L) (t.view L) m where
  live hu := h.inodeUsed_mono hu
  inode := by
    rw [h.inode]
    exact update_of_ne hm _ _
  data _ _ hp := h.data_of_used (hs.owned.dataBlock hp).1

lemma isDirectory_iff (hm : m ≠ n) : IsDirectory (t.view L) m ↔ IsDirectory (s.view L) m := by
  rw [IsDirectory, IsDirectory, h.inodeUsed, h.inode, update_of_ne hm,
    update_of_ne hm]

lemma readDirInode_of_not_dir (hlive : (s.view L).inodeUsed d = true)
    (hd : ¬ IsDirectory (s.view L) d) : readDirInode t d = none := by
  apply NeuroSpark.readDirInode_of_not_dir h.inOrder.layout (h.inodeUsed_mono hlive)
  rwa [h.isDirectory_iff (h.ne_of_live hlive)]

lemma wellFormed (hs : s.WellFormed L) (hi : i.isDir = true → DirOk (t.view L) i) :
    t.WellFormed L := by
  refine ⟨h.inOrder, by rw [h.becomes.mount]; exact hs.firstDataBlock, ?_, fun m hm => ?_⟩
  · exact (h.same hs.toInOrder (h.ne_of_live hs.root.1)).isDirectory hs.root
  · by_cases hmn : m = n
    · subst hmn
      rw [h.inode_self]
      apply hi
      have hdir := hm.2
      rwa [h.inode_self] at hdir
    · have hm' := (h.isDirectory_iff hmn).mp hm
      exact (h.same hs.toInOrder hmn).dirOk hm'.owner (hs.dirs m hm') fun e he =>
        h.inodeUsed_mono ((hs.dirs m hm').live e he)

lemma dirLookup (hs : s.WellFormed L) (hd : IsDirectory (s.view L) d) (name : CString) :
    NeuroSpark.dirLookup t d name = NeuroSpark.dirLookup s d name :=
  (h.same hs.toInOrder (h.ne_of_live hd.1)).dirLookup hs h.inOrder hd name

variable (hs : s.InOrder L) (hd : IsDirectory (s.view L) d)
  (hok : DirShape (s.view L) ((s.view L).inode d))
include hs hd

lemma inode_dir : (t.view L).inode d = (s.view L).inode d :=
  (h.same hs (h.ne_of_live hd.1)).inode

lemma fileBlock (b : Nat) : NeuroSpark.fileBlock (t.view L) ((t.view L).inode d) b =
    NeuroSpark.fileBlock (s.view L) ((s.view L).inode d) b :=
  (h.same hs (h.ne_of_live hd.1)).fileBlock hd.owner b

include hok in
lemma roomIn (nameLen : Nat) : NeuroSpark.roomIn (t.view L) ((t.view L).inode d) nameLen =
    NeuroSpark.roomIn (s.view L) ((s.view L).inode d) nameLen := by
  have hsame := h.same hs (h.ne_of_live hd.1)
  unfold NeuroSpark.roomIn
  rw [hsame.inode]
  apply findSome?_congr
  intro b hb
  have hdata := hsame.fileData hd.owner (hok.present b (List.mem_range.mp hb))
  rw [hsame.inode] at hdata
  rw [hdata]

lemma newBlock (index : Nat) : NeuroSpark.newBlock t.mount (t.view L) ((t.view L).inode d) index 0 =
    NeuroSpark.newBlock s.mount (s.view L) ((s.view L).inode d) index taken := by
  unfold NeuroSpark.newBlock
  rw [h.fileBlock hs hd, h.inode_dir hs hd, h.freeBlocks]
  simp only [List.getElem?_drop, Nat.zero_add]

lemma data_newBlock {index p : Nat}
    (hp : NeuroSpark.newBlock s.mount (s.view L) ((s.view L).inode d) index taken = some p) :
    (t.view L).data p = (s.view L).data p := by
  unfold NeuroSpark.newBlock at hp
  split_ifs at hp with hne h12
  · cases hp
    exact h.data_of_used (fileBlock_data (hs.working hd.owner) hne).1
  all_goals
    apply h.data
    intro hmem
    have hdrop : p ∈ (NeuroSpark.freeBlocks s.mount (s.view L)).drop taken := by
      rw [← List.getElem?_drop] at hp
      exact List.mem_of_getElem? hp
    have hnodup := freeBlocks_nodup s.mount (s.view L)
    rw [← List.take_append_drop taken (NeuroSpark.freeBlocks s.mount (s.view L))] at hnodup
    exact List.disjoint_of_nodup_append hnodup hmem hdrop

include hok

lemma entryClean (name : CString) :
    EntryClean t.mount (t.view L) ((t.view L).inode d) name 0 ↔
      EntryClean s.mount (s.view L) ((s.view L).inode d) name taken := by
  unfold EntryClean
  rw [h.roomIn hs hd hok]
  cases hroom : NeuroSpark.roomIn (s.view L) ((s.view L).inode d) name.length with
  | some r =>
    obtain ⟨b, off⟩ := r
    have hb := (roomIn_eq_some hroom).1
    dsimp only
    rw [(h.same hs (h.ne_of_live hd.1)).fileData hd.owner (hok.present b hb)]
  | none =>
    dsimp only
    rw [h.inode_dir hs hd]
    refine forall_congr' fun p => ?_
    have hnew := h.newBlock hs hd (blockCount ((s.view L).inode d).size)
    rw [h.inode_dir hs hd] at hnew
    rw [hnew]
    refine imp_congr_right fun hp => ?_
    rw [h.data_newBlock hs hd hp]

end Prepared

/-! ### Storing a new inode -/

/-- An inode number was taken. -/
structure Taken (L : Ext2Layout) (n : Nat) (s u : Ext2) : Prop where
  valid : ValidInode s.mount n
  unused : (s.view L).inodeUsed n = false
  becomes : s.Becomes u L
    { s.view L with inodeUsed := Function.update (s.view L).inodeUsed n true }

namespace Taken

variable (h : Taken L n s u) (hs : s.InOrder L)
include h

lemma freeBlocks : NeuroSpark.freeBlocks u.mount (u.view L) =
    NeuroSpark.freeBlocks s.mount (s.view L) := by
  rw [h.becomes.mount, h.becomes.view]
  rfl

include hs

lemma prepared (hi : i.InlineSymlink ∨ ∀ k, i.block k = 0) :
    (writeInode u n i).2 = true ∧ Prepared L n 0 i s (writeInode u n i).1 := by
  obtain ⟨hvalid, hunused, hb⟩ := h
  obtain ⟨hok, hw⟩ := writeInode_spec hb.layout (by rw [hb.mount]; exact hvalid) i
  rw [hb.view] at hw
  have hbw := hb.trans hw
  refine ⟨hok, hbw.self, hbw.inOrder ?_, hvalid, hunused, ?_, ?_, fun p => ?_, fun p _ => ?_, ?_⟩
  · rw [hbw.view]
    refine hs.owned.newInode (hi.imp_right fun hzero sl => ?_)
    cases sl with
    | ptr k => exact hzero k
    | entry k => simp only [slot, hzero 12, if_true]
  · rw [hbw.view]
  · rw [hbw.view]
  · rw [hbw.view, List.take_zero]
    simp
  · rw [hbw.view]
  · rw [hbw.mount, hbw.view, List.drop_zero]
    rfl

lemma getBlock (h1 : 1 ≤ s.mount.firstDataBlock) (hzero : ∀ k, i.block k = 0)
    (hsym : ¬ i.InlineSymlink) :
    (NeuroSpark.freeBlocks s.mount (s.view L) = [] ∧ inodeGetBlock u i 0 true = (u, i, 0)) ∨
      ∃ x l w, NeuroSpark.freeBlocks s.mount (s.view L) = x :: l ∧
        inodeGetBlock u i 0 true = (w, i.setBlock 0 x, x) ∧ ¬ BadNum x ∧
        Working L n w (i.setBlock 0 x) ∧ (i.setBlock 0 x).block 0 = x ∧ s.Becomes w L
          { s.view L with
            inodeUsed := update (s.view L).inodeUsed n true
            blockUsed := update (s.view L).blockUsed x true } := by
  have hk := working_new hs h.becomes hzero hsym
  have hfirst : 1 ≤ u.mount.firstDataBlock := by
    rw [h.becomes.mount]
    exact h1
  have hget := inodeGetBlock_getsBlock hk hfirst 0
  have hext := (getFirstBlock hk).1
  have hempty : fileBlock (u.view L) i 0 = 0 := by
    rw [fileBlock_direct (by decide), hzero]
  generalize hg : inodeGetBlock u i 0 true = g at hget hext ⊢
  cases hget with
  | present h => exact absurd hempty h
  | fails _ hno =>
    rw [h.freeBlocks] at hno
    exact Or.inl ⟨hno.resolve_left (by decide), rfl⟩
  | @direct x l w _ _ hfree ht =>
    right
    have hx := mem_freeBlocks.mp (hfree ▸ List.mem_cons_self ..)
    rw [h.freeBlocks] at hfree
    have hbad := validBlock_not_badNum h.becomes.layout hfirst hx.1
    have hlt := h.becomes.layout.block_lt hx.1
    refine ⟨x, l, w, hfree, rfl, hbad, hext.working hk,
      Ext2Inode.block_setBlock_same i (by decide) hlt, (h.becomes.trans ht).cast ?_⟩
    rw [h.becomes.view]
  | entry _ hge => exact absurd hge (by decide)
  | lastIndirect _ hge => exact absurd hge (by decide)
  | indirect _ hge => exact absurd hge (by decide)

omit hs in
/-- An inode with one block is stored, after the block was written. -/
lemma prepared_block {x : Nat} {l : List Nat} {w : Ext2}
    (hfree : NeuroSpark.freeBlocks s.mount (s.view L) = x :: l) (hx : ¬ BadNum x)
    (hk : Working L n w (i.setBlock 0 x)) (hself : (i.setBlock 0 x).block 0 = x)
    (hw : s.Becomes w L
      { s.view L with
        inodeUsed := update (s.view L).inodeUsed n true
        blockUsed := update (s.view L).blockUsed x true })
    (buf : Ext2Block) (hmode : j.mode = i.mode) (hsize : j.size = i.size)
    (hblock : ∀ k, j.block k = (i.setBlock 0 x).block k) :
    (writeInode (writeBlock w x buf) n j).2 = true ∧
      Prepared L n 1 j s (writeInode (writeBlock w x buf) n j).1 ∧
      ((writeInode (writeBlock w x buf) n j).1.view L).data x = buf := by
  have hfb : fileBlock (w.view L) (i.setBlock 0 x) 0 = x := by
    rw [fileBlock_direct (by decide), hself]
  have hx0 : x ≠ 0 := fun h0 => hx (Or.inl h0)
  have hwrite := hk.writeBlock (b := 0) (by rwa [hfb]) buf
  rw [hfb] at hwrite
  obtain ⟨hext, hview, -, -⟩ := hwrite
  have hkj : Working L n (writeBlock w x buf) j := by
    refine (hext.working hk).setFields (hmode.trans ?_) (hsize.trans ?_) hblock
    · exact (Ext2Inode.mode_setBlock _ _ _).symm
    · exact (Ext2Inode.size_setBlock _ _ _).symm
  obtain ⟨hok, hio, hstored, hbj⟩ := hkj.store
  have hb := hw.trans (hext.becomes.trans hbj)
  have hv : (writeInode (writeBlock w x buf) n j).1.view L =
      { s.view L with
        inodeUsed := update (s.view L).inodeUsed n true
        blockUsed := update (s.view L).blockUsed x true
        inode := update (s.view L).inode n j
        data := update (s.view L).data x buf } := by
    rw [hstored, hview, hw.view]
    rfl
  have htake : (NeuroSpark.freeBlocks s.mount (s.view L)).take 1 = [x] := by
    rw [hfree]
    rfl
  generalize (writeInode (writeBlock w x buf) n j).1 = t at hio hb hv ⊢
  refine ⟨hok, ⟨hb, hio, h.valid, h.unused, by rw [hv], by rw [hv], fun p => ?_, fun p hp => ?_,
    ?_⟩, ?_⟩
  · rw [hv, htake, List.mem_singleton]
    by_cases hpx : p = x
    · subst hpx
      simp
    · simp [hpx]
  · rw [htake, List.mem_singleton] at hp
    rw [hv]
    exact update_of_ne hp _ _
  · rw [hb.mount, hv, hfree]
    exact freeBlocks_take (v := { s.view L with
      inodeUsed := update (s.view L).inodeUsed n true
      inode := update (s.view L).inode n j
      data := update (s.view L).data x buf }) hfree
  · rw [hv]
    exact update_self _ _ _

end Taken

/-! ### The first block of a directory -/

lemma putEntry_of_nul {b : Ext2Block} {off recLen fileType : Nat}
    (h : b.get (off + 8 + name.length) = 0) :
    putEntry b off n recLen fileType name = ((b.setLe32 off n).setLe16 (off + 4) recLen).patch
      (off + 6) (UInt8.ofNat name.length :: UInt8.ofNat fileType :: name) := by
  have hcons : ∀ l, (((b.setLe32 off n).setLe16 (off + 4) recLen).patch (off + 6)
      [UInt8.ofNat name.length, UInt8.ofNat fileType]).patch (off + 8) l =
        ((b.setLe32 off n).setLe16 (off + 4) recLen).patch (off + 6)
          (UInt8.ofNat name.length :: UInt8.ofNat fileType :: l) := fun l =>
    (Bytes.patch_append _ (off + 6) [UInt8.ofNat name.length, UInt8.ofNat fileType] l).symm
  rw [putEntry, Bytes.patch_append, hcons]
  apply Bytes.patch_eq_self
  intro j hj _
  obtain rfl : j = 0 := Nat.lt_one_iff.mp hj
  rw [Bytes.get_patch_of_ge _ _ (by simp; omega), Bytes.setLe16,
    Bytes.get_patch_of_ge _ _ (by simp; omega), Bytes.setLe32,
    Bytes.get_patch_of_ge _ _ (by simp; omega), Nat.add_zero, h]
  rfl

lemma newDirBlock_eq (n parent : Nat) :
    newDirBlock n parent = putEntry (putEntry Bytes.zero 0 n 12 ext2FtDir [dot]) 12 parent
      (ext2BlockSize - 12) ext2FtDir [dot, dot] := by
  rw [putEntry_of_nul, putEntry_of_nul (Bytes.get_zero _)]
  · rfl
  · rw [get_putEntry_of_ge (by decide), Bytes.get_zero]

/-- A new directory lists itself and its parent. -/
lemma newDirBlock_listing {parent : Nat} (hn : n < 4294967296) (hn0 : n ≠ 0)
    (hp : parent < 4294967296) (hp0 : parent ≠ 0) :
    BlockOk (newDirBlock n parent) ∧
      blockListing (newDirBlock n parent) = [⟨[dot], n⟩, ⟨[dot, dot], parent⟩] := by
  have hdot : GoodName [dot] := ⟨by decide, by decide, by decide, by decide⟩
  have hdots : GoodName [dot, dot] := ⟨by decide, by decide, by decide, by decide⟩
  rw [newDirBlock_eq]
  have hlen : entNameLen (putEntry (Bytes.zero : Ext2Block) 0 n 12 ext2FtDir [dot]) 0 = 1 :=
    entNameLen_putEntry (by decide) (by decide)
  have hrec : entRecLen (putEntry (Bytes.zero : Ext2Block) 0 n 12 ext2FtDir [dot]) 0 = 12 :=
    entRecLen_putEntry (by decide) (by decide)
  have hname : recordName (putEntry (Bytes.zero : Ext2Block) 0 n 12 ext2FtDir [dot]) 0 = [dot] :=
    recordName_putEntry (by decide) (by decide) (by decide)
  have hinode : recordOf (putEntry (Bytes.zero : Ext2Block) 0 n 12 ext2FtDir [dot]) 0 =
      some ⟨[dot], n⟩ := hdot.recordOf_putEntry hn hn0 _ _ (by decide)
  generalize putEntry (Bytes.zero : Ext2Block) 0 n 12 ext2FtDir [dot] = b at hlen hrec hname hinode ⊢
  -- the second record leaves the first as it is
  obtain ⟨hi', hrec', hlen', hname'⟩ := @record_congr b
    (putEntry b 12 parent (ext2BlockSize - 12) ext2FtDir [dot, dot]) 0
    fun k _ hk => get_putEntry_of_lt (by omega)
  have hfirst : recordOf (putEntry b 12 parent (ext2BlockSize - 12) ext2FtDir [dot, dot]) 0 =
      some ⟨[dot], n⟩ := (recordOf_congr hi' hlen' hname').trans hinode
  have hsecond : recordOf (putEntry b 12 parent (ext2BlockSize - 12) ext2FtDir [dot, dot]) 12 =
      some ⟨[dot, dot], parent⟩ := hdots.recordOf_putEntry hp hp0 _ _ (by decide)
  have hrec12 : entRecLen (putEntry b 12 parent (ext2BlockSize - 12) ext2FtDir [dot, dot]) 12 = 1012 :=
    entRecLen_putEntry (by decide) (by decide)
  have hlen12 : entNameLen (putEntry b 12 parent (ext2BlockSize - 12) ext2FtDir [dot, dot]) 12 = 2 :=
    entNameLen_putEntry (by decide) (by decide)
  have hname12 : recordName (putEntry b 12 parent (ext2BlockSize - 12) ext2FtDir [dot, dot]) 12 =
      [dot, dot] := recordName_putEntry (by decide) (by decide) (by decide)
  rw [hlen] at hlen'
  rw [hrec] at hrec'
  rw [hname] at hname'
  generalize putEntry b 12 parent (ext2BlockSize - 12) ext2FtDir [dot, dot] = b' at *
  obtain ⟨hok, hoffs⟩ : BlockOk b' ∧ dirOffsets b' = [0, 12] := by
    apply BlockOk.of_tiles
    · exact ⟨rfl, by rw [hrec']; decide, by rw [hrec'], by rw [hrec', hrec12]; decide, by
        rw [hrec', hrec12]
        rfl⟩
    · intro off hoff
      rcases List.mem_pair.mp hoff with rfl | rfl
      · rw [hrec', hlen']
        decide
      · rw [hrec12, hlen12]
        decide
    · intro off hoff _
      rcases List.mem_pair.mp hoff with rfl | rfl
      · rw [hname']
        exact ⟨hdot.ne_nil, hdot.slash⟩
      · rw [hname12]
        exact ⟨hdots.ne_nil, hdots.slash⟩
  refine ⟨hok, ?_⟩
  rw [blockListing, hoffs, List.filterMap_cons_some hfirst, List.filterMap_cons_some hsecond,
    List.filterMap_nil]

lemma allocInode_taken (hs : s.HasLayout L) :
    allocInode s = (s, none) ∨
      ∃ n, (allocInode s).2 = some n ∧ ¬ BadNum n ∧ Taken L n s (allocInode s).1 := by
  rcases allocInode_spec hs with hnone | ⟨n, hsome, hvalid, hfree, hb⟩
  · exact Or.inl hnone
  · exact Or.inr ⟨n, hsome, hvalid.not_badNum hs.fits, hvalid, hfree, hb⟩

/-! ### Counting links -/

/-- Nothing but fields of inodes that the directory tree does not depend on changed. -/
structure SameTree (v v' : Ext2View) : Prop where
  inodeUsed : v'.inodeUsed = v.inodeUsed
  mode : ∀ m, (v'.inode m).mode = (v.inode m).mode
  size : ∀ m, (v'.inode m).size = (v.inode m).size
  block : ∀ m k, (v'.inode m).block k = (v.inode m).block k
  data : v'.data = v.data

namespace SameTree

variable {v' : Ext2View} (h : SameTree v v')
include h

lemma fileBlock (m b : Nat) : NeuroSpark.fileBlock v' (v'.inode m) b =
    NeuroSpark.fileBlock v (v.inode m) b := by
  have hslot : ∀ sl, v'.slot (v'.inode m) sl = v.slot (v.inode m) sl := by
    intro sl
    cases sl with
    | ptr k => exact h.block m k
    | entry k => simp only [slot, h.block, h.data]
  unfold NeuroSpark.fileBlock
  rw [funext hslot]

lemma fileData (m b : Nat) : NeuroSpark.fileData v' (v'.inode m) b =
    NeuroSpark.fileData v (v.inode m) b := by
  rw [NeuroSpark.fileData, NeuroSpark.fileData, h.fileBlock, h.data]

lemma isDirectory_iff (m : Nat) : IsDirectory v' m ↔ IsDirectory v m := by
  rw [IsDirectory, IsDirectory, h.inodeUsed, Ext2Inode.isDir, h.mode]
  rfl

lemma dirShape {m : Nat} (hm : DirShape v (v.inode m)) : DirShape v' (v'.inode m) := by
  refine ⟨by rw [h.size]; exact hm.size, fun b hb => ?_⟩
  rw [h.size] at hb
  rw [h.fileBlock]
  exact hm.present b hb

lemma dirListing (m : Nat) : NeuroSpark.dirListing v' (v'.inode m) =
    NeuroSpark.dirListing v (v.inode m) := by
  unfold NeuroSpark.dirListing
  rw [h.size]
  apply List.flatMap_congr
  intro b _
  rw [h.fileData]

lemma dirOk {m : Nat} (hm : DirOk v (v.inode m)) : DirOk v' (v'.inode m) where
  toDirShape := h.dirShape hm.toDirShape
  blocks b hb := by
    rw [h.size] at hb
    rw [h.fileData]
    exact hm.blocks b hb
  names := by
    rw [h.dirListing]
    exact hm.names
  live := by
    rw [h.dirListing, h.inodeUsed]
    exact hm.live

end SameTree

lemma Ext2.InOrder.storeLinks (hs : s.InOrder L) (hn : (s.view L).inodeUsed n = true) (k : Nat) :
    (writeInode s n (((s.view L).inode n).setLinksCount k)).2 = true ∧
      (writeInode s n (((s.view L).inode n).setLinksCount k)).1.InOrder L ∧
      s.Becomes (writeInode s n (((s.view L).inode n).setLinksCount k)).1 L
        ((s.view L).withInode n (((s.view L).inode n).setLinksCount k)) ∧
      SameTree (s.view L)
        ((writeInode s n (((s.view L).inode n).setLinksCount k)).1.view L) := by
  have hvalid := inodeUsed_valid hn
  obtain ⟨hok, hb⟩ := writeInode_spec hs.layout hvalid (((s.view L).inode n).setLinksCount k)
  have hown := (writeInode_fields hs.layout hs.owned hvalid
    (i := ((s.view L).inode n).setLinksCount k)
    (.of_eq fun k' => Ext2Inode.block_setLinksCount _ _ _)
    (by rw [Ext2Inode.InlineSymlink, Ext2Inode.mode_setLinksCount, Ext2Inode.size_setLinksCount]
        exact fun h => h)).2.2.1
  refine ⟨hok, hb.inOrder hown, hb, ?_⟩
  rw [hb.view]
  refine ⟨rfl, fun m => ?_, fun m => ?_, fun m k' => ?_, rfl⟩
  all_goals
    by_cases hm : m = n
    · subst hm
      simp only [update_self, Ext2Inode.mode_setLinksCount, Ext2Inode.size_setLinksCount,
        Ext2Inode.block_setLinksCount]
    · simp only [update_of_ne hm]

lemma Ext2.WellFormed.of_sameTree (hs : s.WellFormed L) (ht : t.InOrder L) (hm : t.mount = s.mount)
    (h : SameTree (s.view L) (t.view L)) : t.WellFormed L where
  toInOrder := ht
  firstDataBlock := by
    rw [hm]
    exact hs.firstDataBlock
  root := (h.isDirectory_iff _).mpr hs.root
  dirs d hd := h.dirOk (hs.dirs d ((h.isDirectory_iff d).mp hd))

/-! ### The sample image with a root directory -/

section

variable {blk : Ext2Block}

lemma sampleRoot_directory : sampleRoot.isDir = true ∧ sampleRoot.size = 1024 ∧
    sampleRoot.block 0 = 6 ∧ sampleFile.isDir = false := by decide

lemma fileData_sampleRoot (v : Ext2View) : fileBlock v sampleRoot 0 = 6 ∧
    fileData v sampleRoot 0 = v.data 6 := by
  have hfb : fileBlock v sampleRoot 0 = 6 := by
    rw [fileBlock_direct (by decide)]
    exact sampleRoot_directory.2.2.1
  exact ⟨hfb, by rw [fileData, hfb]⟩

lemma blockCount_sampleRoot : blockCount sampleRoot.size = 1 := by
  rw [sampleRoot_directory.2.1]
  decide

lemma dirListing_sampleRoot (v : Ext2View) : dirListing v sampleRoot = blockListing (v.data 6) := by
  rw [dirListing, blockCount_sampleRoot, List.range_one, List.flatMap_singleton,
    (fileData_sampleRoot v).2]

lemma roomIn_sampleRoot (v : Ext2View) (nameLen : Nat) : roomIn v sampleRoot nameLen =
    ((dirOffsets (v.data 6)).find? (hasRoom (v.data 6) nameLen)).map fun off => (0, off) := by
  rw [roomIn, blockCount_sampleRoot, List.range_one, List.findSome?_singleton,
    (fileData_sampleRoot v).2]

lemma wellFormed_of_root (hs : s.InOrder sampleLayout) (hm : s.mount = sample.mount)
    (hused : (s.view sampleLayout).inodeUsed = (sample.view sampleLayout).inodeUsed)
    (hinode : (s.view sampleLayout).inode = (sample.view sampleLayout).inode)
    (hdata : (s.view sampleLayout).data 6 = blk) (hok : BlockOk blk)
    (hnames : (blockListing blk).NodupKeys)
    (hlive : ∀ e ∈ blockListing blk, inodeLive sample e.2 = true) : s.WellFormed sampleLayout := by
  have hroot : IsDirectory (s.view sampleLayout) ext2RootInode := by
    rw [IsDirectory, hused, hinode, show ext2RootInode = 2 from rfl, sample_inode.2.1]
    exact ⟨(inodeLive_eq sample_hasLayout 2).symm.trans (by decide),
      sampleRoot_directory.1⟩
  refine ⟨hs, by rw [hm]; decide, hroot, fun d hd => ?_⟩
  have hin : (s.view sampleLayout).inode d = sampleRoot := by
    have hdir := hd.2
    rw [hinode] at hdir ⊢
    rcases sample_live (hused ▸ hd.1) with rfl | rfl | rfl
    · rw [sample_inode.1] at hdir
      exact absurd hdir (by decide)
    · exact sample_inode.2.1
    · rw [sample_inode.2.2, sampleRoot_directory.2.2.2] at hdir
      cases hdir
  rw [hin]
  refine ⟨⟨?_, fun b hb => ?_⟩, fun b hb => ?_, ?_, ?_⟩
  · rw [blockCount_sampleRoot]
    exact sampleRoot_directory.2.1
  · rw [blockCount_sampleRoot] at hb
    obtain rfl : b = 0 := by omega
    rw [(fileData_sampleRoot _).1]
    decide
  · rw [blockCount_sampleRoot] at hb
    obtain rfl : b = 0 := by omega
    rw [(fileData_sampleRoot _).2, hdata]
    exact hok
  · rw [dirListing_sampleRoot, hdata]
    exact hnames
  · rw [dirListing_sampleRoot, hdata, hused]
    intro e he
    exact (inodeLive_eq sample_hasLayout e.2).symm.trans (hlive e he)

lemma sample_rootData : (sample.view sampleLayout).data 6 = sampleBlock 6 := by
  have hmeta : ¬ sampleLayout.IsMeta sample.mount 6 := fun h => by
    have := sample_isMeta h
    omega
  have h := readBlock_data sample_hasLayout (show 6 < sample.mount.totalBlocks by decide) hmeta
  rw [readBlock_eq sample_hasLayout.healthy, sample_blockAt (by decide)] at h
  exact (Option.some.inj h).symm

lemma sample_rootBlock : BlockOk (sampleBlock 6) ∧ dirOffsets (sampleBlock 6) = [0, 12, 24] ∧
    blockListing (sampleBlock 6) = [⟨[dot], 2⟩, ⟨[dot, dot], 2⟩, ⟨[102], 3⟩] := by
  have htiles : Records.Tiles (entRecLen (sampleBlock 6)) 0 1024 [0, 12, 24] :=
    ⟨rfl, by decide, by decide, by decide, by decide,
      by decide, (by decide : _ = 1024)⟩
  obtain ⟨hok, hoffs⟩ := BlockOk.of_tiles htiles (by decide) (by decide)
  refine ⟨hok, hoffs, ?_⟩
  rw [blockListing, hoffs]
  decide

lemma sample_wellFormed : sample.WellFormed sampleLayout := by
  refine wellFormed_of_root sample_inOrder rfl rfl rfl sample_rootData sample_rootBlock.1 ?_ ?_ <;>
    rw [sample_rootBlock.2.2]
  · simp [List.NodupKeys, List.keys, dot]
  · decide

lemma sample_blockUsed_eq {b : Nat} (hb : 1 ≤ b ∧ b < 64) :
    (sample.view sampleLayout).blockUsed b = bitTest (sampleBlock 3) (b - 1) := by
  have hvalid : ValidBlock sample.mount b := hb
  have hblock : sample.blockAt 3 = sampleBlock 3 := sample_blockAt (by decide)
  have hmod : (b - 1) % 8192 = b - 1 := by omega
  simp only [Ext2.view, Ext2Layout.view, hvalid, decide_true, Bool.true_and]
  show bitTest (sample.blockAt 3) ((b - 1) % 8192) = _
  rw [hmod, hblock]

lemma sample_freeBlocks : freeBlocks sample.mount (sample.view sampleLayout) =
    List.range' 41 23 := by
  have hbits : (List.range 64).filter (fun b => decide (1 ≤ b) && !bitTest (sampleBlock 3) (b - 1)) =
      List.range' 41 23 := by decide
  rw [← hbits, freeBlocks]
  apply List.filter_congr
  intro b hb
  have hlt : b < 64 := List.mem_range.mp hb
  by_cases h1 : 1 ≤ b
  · rw [sample_blockUsed_eq ⟨h1, hlt⟩]
    rfl
  · simp [show sample.mount.firstDataBlock = 1 from rfl, h1]

/-- The sample image with another block in its root directory. -/
def sampleWith (root : Ext2Block) : Ext2 := writeBlock sample 6 root

lemma sampleWith_view (root : Ext2Block) :
    BlockWritten sampleLayout 2 0 root sample (sampleWith root) ∧
      ((sampleWith root).view sampleLayout).data 6 = root := by
  have hd := sample_wellFormed.root
  have hfb : fileBlock (sample.view sampleLayout) ((sample.view sampleLayout).inode 2) 0 = 6 := by
    rw [sample_inode.2.1, (fileData_sampleRoot _).1]
  have hw := sample_inOrder.blockWritten (d := 2) (b := 0) hd.owner (by rw [hfb]; decide) root
  rw [hfb] at hw
  refine ⟨hw, ?_⟩
  have hdata := hw.fileData 0 (by rw [hfb]; decide)
  rw [if_pos rfl, fileData, hw.fileBlock, hfb] at hdata
  exact hdata

lemma sampleWith_wellFormed (hok : BlockOk blk) (hnames : (blockListing blk).NodupKeys)
    (hlive : ∀ e ∈ blockListing blk, inodeLive sample e.2 = true) :
    (sampleWith blk).WellFormed sampleLayout := by
  obtain ⟨hw, hdata⟩ := sampleWith_view blk
  exact wellFormed_of_root hw.inOrder rfl hw.inodeUsed hw.inode hdata hok hnames hlive

end

end NeuroSpark
