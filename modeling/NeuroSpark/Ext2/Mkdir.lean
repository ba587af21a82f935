import NeuroSpark.Ext2.NewInode

/-!
# Creating a directory

`ext2_mkdir` reads the inode of the parent, enters the new directory, and stores the parent with one
more link from the copy that it read before. What `dir_add_entry` stored in between is lost, which
happens exactly when the parent had to grow.
-/

namespace NeuroSpark

open Word Ext2View

variable {L : Ext2Layout} {n d : Nat} {s t w : Ext2} {i : Ext2Inode} {r : Resolved}
  {path leaf name : CString} {mode parent : Nat}

/-! ### The steps of `ext2_mkdir` -/

/-- The inode that `ext2_mkdir` builds. -/
def mkdirInode (mode : Nat) : Ext2Inode :=
  Ext2Inode.fresh (ext2SIfdir ||| (mode &&& 0o777)) ext2BlockSize 2 (ext2BlockSize / 512)

/-- The state in which `ext2_mkdir` calls `dir_add_entry`. -/
def mkdirStored (s : Ext2) (parent mode inodeNum : Nat) : Ext2 :=
  let g := inodeGetBlock (allocInode s).1 (mkdirInode mode) 0 true
  (writeInode (writeBlock g.1 g.2.2 (newDirBlock inodeNum parent)) inodeNum g.2.1).1

/-- The state that `dir_add_entry` leaves in `ext2_mkdir`. -/
def mkdirEntered (s : Ext2) (r : Resolved) (mode : Nat) : Ext2 :=
  match (allocInode s).2 with
  | none => s
  | some inodeNum =>
    (dirAddEntry (mkdirStored s r.parent mode inodeNum) r.parent r.leaf inodeNum ext2FtDir).1

lemma mkdirInode_isDir (mode : Nat) : (mkdirInode mode).isDir = true := by
  have hbit : (ext2SIfdir ||| (mode &&& 0o777)) % 65536 &&& ext2SIfdir = ext2SIfdir := by
    apply Nat.eq_of_testBit_eq
    intro k
    have h14 : ext2SIfdir = 2 ^ 14 := rfl
    rw [Nat.testBit_and, show 65536 = 2 ^ 16 from rfl, Nat.testBit_mod_two_pow, Nat.testBit_or, h14,
      Nat.testBit_two_pow]
    by_cases hk : k = 14
    · subst hk
      simp
    · simp [Ne.symm hk]
  rw [Ext2Inode.isDir, mkdirInode, Ext2Inode.mode_fresh, hbit]
  decide

/-- The new directory as it is stored. -/
structure NewDir (L : Ext2Layout) (n parent : Nat) (i : Ext2Inode) (s w : Ext2) : Prop
    extends Prepared L n 1 i s w where
  first : (NeuroSpark.freeBlocks s.mount (s.view L)).take 1 = [i.block 0]
  size : i.size = 1024
  isDir : i.isDir = true
  ok : DirOk (w.view L) i
  listing : dirListing (w.view L) i = [⟨[dot], n⟩, ⟨[dot, dot], parent⟩]

lemma newDirBlock_dirOk {v : Ext2View} (hsize : i.size = 1024) (hb : fileBlock v i 0 ≠ 0)
    (hdata : fileData v i 0 = newDirBlock n parent) (hn : n < 4294967296 ∧ n ≠ 0)
    (hp : parent < 4294967296 ∧ parent ≠ 0) (hlive : v.inodeUsed n = true)
    (hplive : v.inodeUsed parent = true) :
    DirOk v i ∧ dirListing v i = [⟨[dot], n⟩, ⟨[dot, dot], parent⟩] := by
  have hcount : blockCount i.size = 1 := by
    rw [hsize]
    decide
  obtain ⟨hblk, hlist⟩ := newDirBlock_listing hn.1 hn.2 hp.1 hp.2
  have hlisting : dirListing v i = [⟨[dot], n⟩, ⟨[dot, dot], parent⟩] := by
    rw [dirListing, hcount, List.range_one, List.flatMap_singleton, hdata, hlist]
  refine ⟨⟨⟨?_, fun b hlt => ?_⟩, fun b hlt => ?_, ?_, fun e he => ?_⟩, hlisting⟩
  · rw [hcount, hsize]
  · obtain rfl : b = 0 := by omega
    exact hb
  · obtain rfl : b = 0 := by omega
    rw [hdata]
    exact hblk
  · rw [hlisting, List.nodupKeys_cons]
    refine ⟨?_, ?_⟩
    · simp [dot]
    · exact List.nodupKeys_singleton _
  · rw [hlisting] at he
    rcases List.mem_pair.mp he with rfl | rfl
    · exact hlive
    · exact hplive

/-- What `ext2_mkdir` does with a name that is not in an existing directory. -/
lemma ext2Mkdir_cases (mode : Nat) (hs : s.WellFormed L)
    (hres : resolvePath s path = some ⟨0, parent, leaf⟩) (hd : IsDirectory (s.view L) parent)
    (hleaf : leaf ≠ []) :
    (allocInode s = (s, none) ∧ ext2Mkdir s path mode = (s, .error .noSpace)) ∨
    ∃ n, (allocInode s).2 = some n ∧ Taken L n s (allocInode s).1 ∧
      ((freeBlocks s.mount (s.view L) = [] ∧
        ext2Mkdir s path mode = (freeInode (allocInode s).1 n, .error .noSpace)) ∨
      ∃ i, NewDir L n parent i s (mkdirStored s parent mode n) ∧
        mkdirEntered s ⟨0, parent, leaf⟩ mode =
          (dirAddEntry (mkdirStored s parent mode n) parent leaf n ext2FtDir).1 ∧
        ext2Mkdir s path mode =
          if (dirAddEntry (mkdirStored s parent mode n) parent leaf n ext2FtDir).2 then
            ((writeInode (mkdirEntered s ⟨0, parent, leaf⟩ mode) parent
              (((s.view L).inode parent).setLinksCount
                (((s.view L).inode parent).linksCount + 1))).1, .ok 0)
          else (freeInode (freeBlock (mkdirEntered s ⟨0, parent, leaf⟩ mode) (i.block 0)) n,
            .error .io)) := by
  have hp0 : parent ≠ 0 := (inodeUsed_number hs.layout hd.1).2
  have hread := IsDirectory.readDirInode hs.layout hd
  unfold ext2Mkdir
  rw [hres]
  simp only [ne_eq, not_true_eq_false, if_false, hp0, hleaf, or_self, hread]
  rcases allocInode_taken hs.layout with hnone | ⟨n, hsome, hbad, htaken⟩
  · left
    rw [hnone]
    exact ⟨rfl, rfl⟩
  right
  refine ⟨n, hsome, htaken, ?_⟩
  rw [hsome]
  dsimp only
  rw [if_neg hbad]
  have hsize : (mkdirInode mode).size = 1024 := Ext2Inode.size_fresh _ _ _ (by decide)
  have hsym : ¬ (mkdirInode mode).InlineSymlink :=
    Ext2Inode.not_inlineSymlink_of_size (by rw [hsize]; decide)
  have hentered : mkdirEntered s ⟨0, parent, leaf⟩ mode =
      (dirAddEntry (mkdirStored s parent mode n) parent leaf n ext2FtDir).1 := by
    rw [mkdirEntered, hsome]
  have hget := htaken.getBlock hs.toInOrder hs.firstDataBlock (i := mkdirInode mode)
    (fun k => Ext2Inode.block_fresh _ _ _ _ k) hsym
  rw [hentered, show Ext2Inode.fresh (ext2SIfdir ||| (mode &&& 0o777)) ext2BlockSize 2
    (ext2BlockSize / 512) = mkdirInode mode from rfl]
  unfold mkdirStored
  rcases hget with ⟨hfree, hg⟩ | ⟨x, l, w, hfree, hg, hx, hk, hself, hw⟩
  · left
    rw [hg]
    exact ⟨hfree, if_pos (Or.inl rfl)⟩
  right
  obtain ⟨hnlt, hn0⟩ : n < 4294967296 ∧ n ≠ 0 := by
    have hle := hs.layout.fits.totalInodes.2
    obtain ⟨h₁, h₂⟩ := htaken.valid
    omega
  obtain ⟨hok, hprep, hdata⟩ := htaken.prepared_block (j := (mkdirInode mode).setBlock 0 x) hfree hx
    hk hself hw (newDirBlock n parent) (Ext2Inode.mode_setBlock _ _ _)
    (Ext2Inode.size_setBlock _ _ _) fun _ => rfl
  rw [hg]
  dsimp only
  rw [if_neg hx]
  simp only [ext2MkdirEnter, hok, Bool.not_true, Bool.false_eq_true, if_false]
  generalize (writeInode (writeBlock w x (newDirBlock n parent)) n
    ((mkdirInode mode).setBlock 0 x)).1 = z at hprep hdata ⊢
  have hisize : ((mkdirInode mode).setBlock 0 x).size = 1024 :=
    (Ext2Inode.size_setBlock _ _ _).trans hsize
  have hfb : fileBlock (z.view L) ((mkdirInode mode).setBlock 0 x) 0 = x := by
    rw [fileBlock_direct (by decide), hself]
  have hfd : fileData (z.view L) ((mkdirInode mode).setBlock 0 x) 0 = newDirBlock n parent := by
    rw [fileData, hfb, hdata]
  have hx0 : fileBlock (z.view L) ((mkdirInode mode).setBlock 0 x) 0 ≠ 0 := by
    rw [hfb]
    exact fun h0 => hx (Or.inl h0)
  obtain ⟨hdir, hlisting⟩ := newDirBlock_dirOk hisize hx0 hfd ⟨hnlt, hn0⟩
    (inodeUsed_number hs.layout hd.1) hprep.live (hprep.inodeUsed_mono hd.1)
  refine ⟨(mkdirInode mode).setBlock 0 x, ⟨hprep, by rw [hfree, hself]; rfl, hisize, ?_, hdir,
    hlisting⟩, trivial, ?_⟩
  · rw [Ext2Inode.isDir, Ext2Inode.mode_setBlock]
    exact mkdirInode_isDir mode
  · rw [hself]
    cases (dirAddEntry z parent leaf n ext2FtDir).2 <;> rfl

lemma ext2Mkdir_succeeds (hs : s.WellFormed L) (hres : resolvePath s path = some ⟨0, parent, leaf⟩)
    (hd : IsDirectory (s.view L) parent) (hleaf : GoodName leaf) (hinode : (allocInode s).2 ≠ none)
    (hcount : blockCount ((s.view L).inode parent).size < 268)
    (hfree : 3 ≤ (freeBlocks s.mount (s.view L)).length) :
    (ext2Mkdir s path mode).2 = .ok 0 := by
  rcases ext2Mkdir_cases mode hs hres hd hleaf.ne_nil with ⟨hnone, -⟩ |
    ⟨n, -, -, ⟨hnil, -⟩ | ⟨i, hnew, -, heq⟩⟩
  · rw [hnone] at hinode
    exact absurd rfl hinode
  · rw [hnil] at hfree
    exact absurd hfree (by decide)
  · have hsame := hnew.same hs.toInOrder (hnew.ne_of_live hd.1)
    have hw := hnew.wellFormed hs fun _ => hnew.ok
    have hadd := dirAddEntry_succeeds (n := n) hw.toInOrder hw.firstDataBlock
      (hsame.isDirectory hd) (hsame.dirShape hd.owner (hs.dirs parent hd).toDirShape) ext2FtDir
      hleaf.length (by rw [hsame.inode]; exact hcount)
      (by rw [hnew.freeBlocks, List.length_drop]; omega)
    rw [heq, if_pos hadd]

/-! ### What is kept -/

/-- A new directory loses nothing: its path resolves to a directory with the two usual entries, the
paths that resolved before still resolve to the same inodes, and of its parent only the number of
links differs from what `dir_add_entry` left. -/
structure MkdirKeeps (L : Ext2Layout) (s : Ext2) (path : CString) (mode parent : Nat)
    (leaf : CString) : Prop where
  resolves : ∃ n, resolvePath (ext2Mkdir s path mode).1 path = some ⟨n, parent, leaf⟩ ∧
    IsDirectory ((ext2Mkdir s path mode).1.view L) n ∧
    dirListing ((ext2Mkdir s path mode).1.view L) (((ext2Mkdir s path mode).1.view L).inode n) =
      [⟨[dot], n⟩, ⟨[dot, dot], parent⟩]
  paths : ∀ p q, resolvePath s p = some q → q.inode ≠ 0 →
    (resolvePath (ext2Mkdir s path mode).1 p).map Resolved.inode = some q.inode
  size : (((ext2Mkdir s path mode).1.view L).inode parent).size =
    (((mkdirEntered s ⟨0, parent, leaf⟩ mode).view L).inode parent).size
  block : ∀ k < 15, (((ext2Mkdir s path mode).1.view L).inode parent).block k =
    (((mkdirEntered s ⟨0, parent, leaf⟩ mode).view L).inode parent).block k
  links : (((ext2Mkdir s path mode).1.view L).inode parent).linksCount =
    ((s.view L).inode parent).linksCount + 1

/-- The parent has room for the entry, no zero byte falls on the next record, and the links of the
parent can still be counted. -/
def MkdirFits (v : Ext2View) (i : Ext2Inode) (leaf : CString) : Prop :=
  (∃ b off, roomIn v i leaf.length = some (b, off) ∧ ¬ Clobbers (fileData v i b) off leaf) ∧
    i.linksCount < 65535

/-- A call of `ext2_mkdir` that entered the directory `n` through `w` and ended in `t`. -/
structure Mkdirs (L : Ext2Layout) (n parent : Nat) (leaf : CString) (s w a t : Ext2) : Prop where
  dir : IsDirectory (s.view L) parent
  absent : leaf ∉ (dirListing (s.view L) ((s.view L).inode parent)).keys
  good : GoodName leaf
  newDir : ∃ i, NewDir L n parent i s w
  wellFormed : w.WellFormed L
  entered : (dirAddEntry w parent leaf n ext2FtDir).2 = true
  afterEntry : a = (dirAddEntry w parent leaf n ext2FtDir).1
  final : t = (writeInode a parent (((s.view L).inode parent).setLinksCount
    (((s.view L).inode parent).linksCount + 1))).1

lemma ext2Mkdir_mkdirs (hs : s.WellFormed L) (h0 : (0 : UInt8) ∉ path)
    (hp : HasParent s path parent leaf) (hok : (ext2Mkdir s path mode).2 = .ok 0) :
    ∃ n w, Mkdirs L n parent leaf s w (mkdirEntered s ⟨0, parent, leaf⟩ mode)
      (ext2Mkdir s path mode).1 := by
  obtain ⟨r, hr⟩ : ∃ r, resolvePath s path = some r := by
    cases hr : resolvePath s path with
    | none =>
      rw [ext2Mkdir, hr] at hok
      cases hok
    | some r => exact ⟨r, rfl⟩
  have hzero : r.inode = 0 := by
    by_contra hne
    rw [ext2Mkdir, hr] at hok
    simp only [ne_eq, hne, not_false_eq_true, if_true] at hok
    cases hok
  obtain ⟨rfl, hlive, hgood, habs⟩ := hp.absent hs h0 hr hzero
  have hd : IsDirectory (s.view L) parent := by
    by_contra hnot
    have hread := readDirInode_of_not_dir hs.layout hlive hnot
    rw [ext2Mkdir, hr] at hok
    simp only [ne_eq, not_true_eq_false, if_false, hread] at hok
    split at hok <;> cases hok
  rcases ext2Mkdir_cases mode hs hr hd hgood.ne_nil with ⟨-, hfail⟩ |
    ⟨n, -, -, ⟨-, hfail⟩ | ⟨i, hnew, hentered, heq⟩⟩
  · rw [hfail] at hok
    cases hok
  · rw [hfail] at hok
    cases hok
  · have hadd : (dirAddEntry (mkdirStored s parent mode n) parent leaf n ext2FtDir).2 = true := by
      by_contra hfalse
      rw [heq, if_neg hfalse] at hok
      cases hok
    refine ⟨n, mkdirStored s parent mode n, hd, hs.notMem_keys hd habs, hgood, ⟨i, hnew⟩,
      hnew.wellFormed hs fun _ => hnew.ok, hadd, hentered, ?_⟩
    rw [heq, if_pos hadd]

namespace Mkdirs

variable {a : Ext2} (h : Mkdirs L n parent leaf s w a t) (hs : s.WellFormed L)
include h

variable {blk : Ext2Block}

section

variable (hs : s.WellFormed L)
include hs

lemma outcome : (∃ b off, roomIn (s.view L) ((s.view L).inode parent) leaf.length = some (b, off) ∧
      BlockWritten L parent b (splitEntry (fileData (s.view L) ((s.view L).inode parent) b) off n
        ext2FtDir leaf) w a) ∨
    roomIn (s.view L) ((s.view L).inode parent) leaf.length = none ∧ ∃ blk, Grew L parent blk w a := by
  obtain ⟨i, hnew⟩ := h.newDir
  have hshape := (hs.dirs parent h.dir).toDirShape
  have hsame := hnew.same hs.toInOrder (hnew.ne_of_live h.dir.1)
  have hroom := hnew.roomIn hs.toInOrder h.dir hshape leaf.length
  have hcases := dirAddEntry_cases (n := n) h.wellFormed.toInOrder h.wellFormed.firstDataBlock
    (hsame.isDirectory h.dir) (hsame.dirShape h.dir.owner hshape) ext2FtDir h.good.length
  have hadd := h.entered
  rw [hroom, ← h.afterEntry] at hcases
  rcases hcases with ⟨b, off, hr, -, hw⟩ | ⟨hr, -, p, -, hg⟩ | ⟨hfail, -⟩ | ⟨-, hfail, -⟩
  · rw [hsame.fileData h.dir.owner (hshape.present b (roomIn_eq_some hr).1)] at hw
    exact Or.inl ⟨b, off, hr, hw⟩
  · exact Or.inr ⟨hr, _, hg⟩
  · rw [hfail] at hadd
    cases hadd
  · rw [hfail] at hadd
    cases hadd

lemma inode_parent : (w.view L).inode parent = (s.view L).inode parent := by
  obtain ⟨i, hnew⟩ := h.newDir
  exact hnew.inode_dir hs.toInOrder h.dir

lemma size_ne_of_grew (hg : Grew L parent blk w a) :
    ((t.view L).inode parent).size ≠ ((a.view L).inode parent).size := by
  have hpar := h.inode_parent hs
  have hvalid : ValidInode a.mount parent := by
    rw [hg.becomes.mount]
    obtain ⟨i, hnew⟩ := h.newDir
    rw [hnew.becomes.mount]
    exact inodeUsed_valid h.dir.1
  have hb := (writeInode_spec hg.inOrder.layout hvalid (((s.view L).inode parent).setLinksCount
    (((s.view L).inode parent).linksCount + 1))).2
  rw [← h.final] at hb
  have hin : (t.view L).inode parent = ((s.view L).inode parent).setLinksCount
      (((s.view L).inode parent).linksCount + 1) := by
    rw [hb.view]
    exact Function.update_self _ _ _
  rw [hin, Ext2Inode.size_setLinksCount, hg.size, hpar]
  omega

lemma sameTree {b : Nat} (hw : BlockWritten L parent b blk w a) :
    t.InOrder L ∧ a.Becomes t L ((a.view L).withInode parent (((s.view L).inode parent).setLinksCount
      (((s.view L).inode parent).linksCount + 1))) ∧ SameTree (a.view L) (t.view L) := by
  have hin : (a.view L).inode parent = (s.view L).inode parent := by
    rw [hw.inode]
    exact h.inode_parent hs
  have hlive : (a.view L).inodeUsed parent = true := by
    rw [hw.inodeUsed]
    obtain ⟨i, hnew⟩ := h.newDir
    exact hnew.inodeUsed_mono h.dir.1
  obtain ⟨-, hio, hb, htree⟩ := hw.inOrder.storeLinks hlive
    (((s.view L).inode parent).linksCount + 1)
  rw [hin, ← h.final] at hio hb htree
  exact ⟨hio, hb, htree⟩

/-- With a clean entry the image stays well formed, and names are found as before. -/
lemma clean {b off : Nat} (hw : BlockWritten L parent b blk w a)
    (hroom : roomIn (s.view L) ((s.view L).inode parent) leaf.length = some (b, off))
    (hclob : ¬ Clobbers (fileData (s.view L) ((s.view L).inode parent) b) off leaf) :
    t.WellFormed L ∧
      (∀ m c x, dirLookup s m c = some x → (s.view L).inodeUsed m = true →
        dirLookup t m c = some x) ∧
      dirLookup t parent leaf = some n ∧ IsDirectory (t.view L) n ∧
      dirListing (t.view L) ((t.view L).inode n) = [⟨[dot], n⟩, ⟨[dot, dot], parent⟩] := by
  obtain ⟨i, hnew⟩ := h.newDir
  have hne := hnew.ne_of_live h.dir.1
  have hsame := hnew.same hs.toInOrder hne
  have hdirw := hsame.isDirectory h.dir
  have hok := (hs.dirs parent h.dir).toDirShape
  have hclean : EntryClean w.mount (w.view L) ((w.view L).inode parent) leaf 0 := by
    rw [hnew.entryClean hs.toInOrder h.dir hok, EntryClean, hroom]
    exact hclob
  have habs : leaf ∉ (dirListing (w.view L) ((w.view L).inode parent)).keys := by
    rw [hsame.dirListing h.dir.owner hok]
    exact h.absent
  obtain ⟨ha, hins, -, hused, hothers⟩ := dirAddEntry_inserts h.wellFormed hdirw h.good hnew.live
    ext2FtDir habs hclean h.entered
  rw [← h.afterEntry] at ha hins hused hothers
  obtain ⟨hio, hb, htree⟩ := h.sameTree hs hw
  have ht := ha.of_sameTree hio hb.mount htree
  -- a directory lists in the end what it lists after the entry was added
  have hfinal : ∀ m, IsDirectory (a.view L) m → ∀ c, dirLookup t m c = dirLookup a m c := by
    intro m hm c
    rw [ht.dirLookup ((htree.isDirectory_iff m).mpr hm), ha.dirLookup hm, htree.dirListing]
  have hdira : ∀ m, IsDirectory (w.view L) m → IsDirectory (a.view L) m := fun m => hw.isDirectory
  refine ⟨ht, fun m c x hx hm => ?_, ?_, ?_, ?_⟩
  · obtain ⟨hdm, -, -⟩ := live_of_dirLookup hs hm hx
    have hdmw := (hnew.same hs.toInOrder (hnew.ne_of_live hm)).isDirectory hdm
    rw [hfinal m (hdira m hdmw)]
    rw [← hnew.dirLookup hs hdm] at hx
    by_cases hmp : m = parent
    · subst hmp
      rw [h.wellFormed.dirLookup hdmw] at hx
      rw [ha.dirLookup (hdira m hdmw), hins.dlookup_ne, hx]
      rintro rfl
      exact habs (List.dlookup_isSome.mp (by rw [hx]; rfl))
    · rw [(hothers m hmp).dirLookup h.wellFormed ha.toInOrder hdmw, hx]
  · rw [hfinal parent (hdira parent hdirw), ha.dirLookup (hdira parent hdirw)]
    exact hins.dlookup_self habs
  · rw [htree.isDirectory_iff]
    refine hdira n ⟨hnew.live, ?_⟩
    rw [hnew.inode_self]
    exact hnew.isDir
  · have hn := hothers n hne.symm
    have hshape : DirShape (w.view L) ((w.view L).inode n) := by
      rw [hnew.inode_self]
      exact hnew.ok.toDirShape
    have hown : (w.view L).Owner n := by
      refine ⟨hnew.live, ?_⟩
      rw [hnew.inode_self]
      exact Ext2Inode.not_inlineSymlink_of_isDir hnew.isDir
    rw [htree.dirListing, hn.dirListing hown hshape, hnew.inode_self]
    exact hnew.listing

/-- Where a zero byte falls on the next record, its name no longer leads to its inode. -/
lemma clobbered {b off : Nat}
    (hw : BlockWritten L parent b (splitEntry (fileData (s.view L) ((s.view L).inode parent) b) off
      n ext2FtDir leaf) w a)
    (hroom : roomIn (s.view L) ((s.view L).inode parent) leaf.length = some (b, off))
    (hclob : Clobbers (fileData (s.view L) ((s.view L).inode parent) b) off leaf) :
    ∃ c x, GoodName c ∧ x ≠ 0 ∧ dirLookup s parent c = some x ∧
      dirLookup t parent c ≠ some x := by
  obtain ⟨i, hnew⟩ := h.newDir
  have hdir := hs.dirs parent h.dir
  have hsame := hnew.same hs.toInOrder (hnew.ne_of_live h.dir.1)
  obtain ⟨hlt, hn0⟩ := inodeUsed_number hnew.inOrder.layout hnew.live
  -- the parent is as before when the entry is added
  have hlist := hsame.dirListing h.dir.owner hdir.toDirShape
  have hdirw := hsame.isDirectory h.dir
  have hokw := (h.wellFormed.dirs parent hdirw).records
  rw [← hnew.roomIn hs.toInOrder h.dir hdir.toDirShape] at hroom
  rw [← hsame.fileData h.dir.owner (hdir.present b (h.inode_parent hs ▸ (roomIn_eq_some hroom).1))]
    at hw hclob
  obtain ⟨c, x, hgood, hx0, hmem, hlost⟩ := splitEntry_loses hw hokw hroom h.good hlt hn0
    (by rw [hlist]; exact h.absent) hclob
  refine ⟨c, x, hgood, hx0, ?_, ?_⟩
  · rw [hs.dirLookup h.dir]
    exact List.mem_dlookup hdir.names (hlist ▸ hmem)
  · obtain ⟨hio, -, htree⟩ := h.sameTree hs hw
    have hblocks := splitEntry_blocks hw hokw hroom h.good hlt hn0
    rw [dirLookup_eq hio ((htree.isDirectory_iff _).mpr (hw.isDirectory hdirw))
      (htree.dirShape (hw.dirShape hokw.toDirShape)) (fun b' hb' => by
        rw [htree.size] at hb'
        rw [htree.fileData]
        exact hblocks b' hb'), htree.dirListing]
    exact fun hlook => hlost (List.of_mem_dlookup hlook)

end

end Mkdirs

/-! ### When everything is kept -/

lemma Ext2Inode.linksCount_setLinksCount (i : Ext2Inode) (k : Nat) :
    (i.setLinksCount k).linksCount = k % 65536 := Bytes.le16_setLe16_same _ _ (by decide)

section

variable (hs : s.WellFormed L) (h0 : (0 : UInt8) ∉ path) (hp : HasParent s path parent leaf)
  (hok : (ext2Mkdir s path mode).2 = .ok 0)
include hs h0 hp hok

lemma ext2Mkdir_keeps_of_fits (hfits : MkdirFits (s.view L) ((s.view L).inode parent) leaf) :
    MkdirKeeps L s path mode parent leaf := by
  obtain ⟨⟨b, off, hroom, hclob⟩, hlinks⟩ := hfits
  obtain ⟨n, w, h⟩ := ext2Mkdir_mkdirs hs h0 hp hok
  rcases h.outcome hs with ⟨b', off', hroom', hw⟩ | ⟨hroom', -⟩
  · obtain ⟨rfl, rfl⟩ : b = b' ∧ off = off' := by
      rw [hroom] at hroom'
      simpa using hroom'
    obtain ⟨ht, hfound, hleaf, hdir, hlist⟩ := h.clean hs hw hroom hclob
    obtain ⟨-, hb, htree⟩ := h.sameTree hs hw
    have hkept : ∀ d c x, (s.view L).inodeUsed d = true → dirLookup s d c = some x →
        dirLookup (ext2Mkdir s path mode).1 d c = some x := fun d c x hd hx => hfound d c x hx hd
    refine ⟨⟨n, ?_, hdir, hlist⟩, fun p q hq hne => ?_, htree.size parent,
      fun k _ => htree.block parent k, ?_⟩
    · -- the way to the parent is the same as before
      have hhead : path.head? = some slash := by
        cases hr : resolvePath s path with
        | none =>
          rw [ext2Mkdir, hr] at hok
          cases hok
        | some r => exact resolvePath_head hr
      obtain ⟨front, hcs, hwalk⟩ := hp
      have hp' : HasParent (ext2Mkdir s path mode).1 path parent leaf :=
        ⟨front, hcs, walk_kept hs hkept hwalk⟩
      rw [hp'.resolvePath hhead, hleaf]
      rfl
    · rw [resolvePath_kept hs hkept hq hne]
      rfl
    · have hin : ((ext2Mkdir s path mode).1.view L).inode parent =
          ((s.view L).inode parent).setLinksCount (((s.view L).inode parent).linksCount + 1) := by
        rw [hb.view]
        exact withInode_inode_same _ _ _
      rw [hin, Ext2Inode.linksCount_setLinksCount, Nat.mod_eq_of_lt (by omega)]
  · rw [hroom] at hroom'
    cases hroom'

lemma ext2Mkdir_fits_of_keeps (hkeeps : MkdirKeeps L s path mode parent leaf) :
    MkdirFits (s.view L) ((s.view L).inode parent) leaf := by
  obtain ⟨n, w, h⟩ := ext2Mkdir_mkdirs hs h0 hp hok
  rcases h.outcome hs with ⟨b, off, hroom, hw⟩ | ⟨-, blk, hg⟩
  · refine ⟨⟨b, off, hroom, fun hclob => ?_⟩, ?_⟩
    · -- the name of the next record is looked up through the parent
      obtain ⟨c, x, hgood, hx, hold, hnew⟩ := h.clobbered hs hw hroom hclob
      obtain ⟨front, hcs, hwalk⟩ := hp
      have hfront : ∀ c' ∈ front, GoodName c' := by
        intro c' hc'
        apply goodName_of_mem_pathComponents h0
        rw [hcs]
        exact List.mem_append_left _ hc'
      have hwalk' := walk_of_paths hs hkeeps.paths hfront hwalk
      have hres := resolvePath_render hfront hgood hwalk
      rw [hold, Option.getD_some] at hres
      have hres' := hkeeps.paths _ _ hres hx
      rw [resolvePath_render hfront hgood hwalk', Option.map_some] at hres'
      have hget := Option.some.inj hres'
      dsimp only at hget
      cases hlook : dirLookup (ext2Mkdir s path mode).1 parent c with
      | none =>
        rw [hlook, Option.getD_none] at hget
        exact hx hget.symm
      | some y =>
        rw [hlook, Option.getD_some] at hget
        exact hnew (hget ▸ hlook)
    · obtain ⟨-, hb, -⟩ := h.sameTree hs hw
      have hin : ((ext2Mkdir s path mode).1.view L).inode parent =
          ((s.view L).inode parent).setLinksCount (((s.view L).inode parent).linksCount + 1) := by
        rw [hb.view]
        exact withInode_inode_same _ _ _
      have hlinks := hkeeps.links
      rw [hin, Ext2Inode.linksCount_setLinksCount] at hlinks
      omega
  · exact absurd hkeeps.size (h.size_ne_of_grew hs hg)

/-- A new directory loses nothing exactly when its parent has room for it. -/
theorem ext2Mkdir_keeps_iff : MkdirKeeps L s path mode parent leaf ↔
    MkdirFits (s.view L) ((s.view L).inode parent) leaf := by
  constructor
  · exact ext2Mkdir_fits_of_keeps hs h0 hp hok
  · exact ext2Mkdir_keeps_of_fits hs h0 hp hok

end

/-- A directory is made in the root of the sample image. -/
theorem ext2Mkdir_keeps_sample : MkdirKeeps sampleLayout sample [slash, 100] 0o755 2 [100] := by
  have hp : HasParent sample [slash, 100] 2 [100] := ⟨[], by decide, rfl⟩
  refine (ext2Mkdir_keeps_iff sample_wellFormed (by decide) hp (by decide +kernel)).mpr
    ⟨⟨0, 24, ?_, ?_⟩, ?_⟩ <;> rw [sample_inode.2.1]
  · rw [roomIn_sampleRoot, sample_rootData, sample_rootBlock.2.1]
    decide +kernel
  · rw [(fileData_sampleRoot _).2, sample_rootData]
    decide +kernel
  · decide +kernel

/-- A root directory whose last record is not in use. -/
def fullRoot : Ext2Block := (sampleBlock 6).setLe32 24 0

lemma fullRoot_ok : BlockOk fullRoot ∧ dirOffsets fullRoot = [0, 12, 24] ∧
    blockListing fullRoot = [⟨[dot], 2⟩, ⟨[dot, dot], 2⟩] := by
  have htiles : Records.Tiles (entRecLen fullRoot) 0 1024 [0, 12, 24] :=
    ⟨rfl, by decide, by decide, by decide, by decide,
      by decide, (by decide : _ = 1024)⟩
  obtain ⟨hok, hoffs⟩ := BlockOk.of_tiles htiles (by decide) (by decide)
  refine ⟨hok, hoffs, ?_⟩
  rw [blockListing, hoffs]
  decide

/-- In a root directory without room a new directory costs the block that it was entered in. -/
theorem ext2Mkdir_loses_growth :
    (sampleWith fullRoot).WellFormed sampleLayout ∧
      HasParent (sampleWith fullRoot) [slash, 100] 2 [100] ∧
      (ext2Mkdir (sampleWith fullRoot) [slash, 100] 0o755).2 = .ok 0 ∧
      ¬ MkdirKeeps sampleLayout (sampleWith fullRoot) [slash, 100] 0o755 2 [100] := by
  obtain ⟨hok, hoffs, hlist⟩ := fullRoot_ok
  have hs : (sampleWith fullRoot).WellFormed sampleLayout := by
    refine sampleWith_wellFormed hok ?_ ?_ <;> rw [hlist]
    · simp [List.NodupKeys, List.keys, dot]
    · decide
  have hp : HasParent (sampleWith fullRoot) [slash, 100] 2 [100] := ⟨[], by decide, rfl⟩
  obtain ⟨hw, hdata⟩ := sampleWith_view fullRoot
  have hmkdir : (ext2Mkdir (sampleWith fullRoot) [slash, 100] 0o755).2 = .ok 0 := by
    have hres : resolvePath (sampleWith fullRoot) [slash, 100] = some ⟨0, 2, [100]⟩ := by
      decide
    refine ext2Mkdir_succeeds hs hres hs.root
      ⟨by decide, by decide, by decide, by decide⟩ (by decide) ?_ ?_
    · rw [hw.inode, sample_inode.2.1, blockCount_sampleRoot]
      decide
    · rw [show (sampleWith fullRoot).mount = sample.mount from rfl, freeBlocks, hw.blockUsed]
      exact (congrArg (3 ≤ ·.length) sample_freeBlocks).mpr (by decide)
  refine ⟨hs, hp, hmkdir, fun hkeeps => ?_⟩
  obtain ⟨⟨b, off, hroom, -⟩, -⟩ := ext2Mkdir_fits_of_keeps hs (by decide) hp hmkdir hkeeps
  rw [hw.inode, sample_inode.2.1, roomIn_sampleRoot, hdata, hoffs] at hroom
  have hnone : [0, 12, 24].find? (hasRoom fullRoot 1) = none := by decide
  rw [show ([100] : CString).length = 1 from rfl, hnone] at hroom
  cases hroom

end NeuroSpark
