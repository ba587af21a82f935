import NeuroSpark.Ext2.NewInode

/-!
# Symbolic links

`ext2_symlink` stores a target of at most 60 bytes in the inode and a longer one in a block, and
`ext2_readlink` finds out from the size of the inode where it is. The two agree for every target;
what can go wrong is that the entry of the link is not found, and that the length of the buffer is
taken as a signed number.
-/

namespace NeuroSpark

open Word Ext2View

variable {L : Ext2Layout} {n d parent maxLen : Nat} {s t w : Ext2} {i : Ext2Inode}
  {path target leaf : CString}

/-! ### The steps of `ext2_symlink` -/

/-- The number of blocks that a link takes for its target. -/
def linkBlocks (target : CString) : Nat := if target.length ≤ inlineTargetMax then 0 else 1

/-- The inode of a link to `target`, in an image with the contents `v`. -/
structure LinkStored (v : Ext2View) (i : Ext2Inode) (target : CString) : Prop where
  mode : i.mode = ext2SymlinkMode
  size : i.size = target.length
  inline : target.length ≤ inlineTargetMax → i.slice 40 target.length = target
  block : inlineTargetMax < target.length → fileBlock v i 0 ≠ 0 ∧
    (fileData v i 0).slice 0 target.length = target

lemma LinkStored.isDir {v : Ext2View} (h : LinkStored v i target) : i.isDir = false := by
  rw [Ext2Inode.isDir, h.mode]
  decide

/-- The inode of a link whose target is in a block. -/
def blockLink (target : CString) (x : Nat) : Ext2Inode :=
  ((Ext2Inode.fresh ext2SymlinkMode target.length 1 0).setBlock 0 x).setBlocks (ext2BlockSize / 512)

lemma linkStored_inline {v : Ext2View} (hlen : target.length ≤ inlineTargetMax) :
    LinkStored v (inlineLink target) target := by
  have hle : target.length ≤ 60 := hlen
  refine ⟨?_, ?_, fun _ => ?_, fun h => absurd hlen (Nat.not_le.mpr h)⟩
  · rw [inlineLink, Ext2Inode.mode_patch _ _ (by decide), Ext2Inode.mode_fresh]
    decide
  · rw [← Ext2Inode.size_fresh ext2SymlinkMode 1 0 (show target.length < 4294967296 by omega)]
    apply Bytes.le32_congr
    intro k hk
    exact Bytes.get_patch_of_lt _ _ (by omega)
  · exact Bytes.slice_patch_same _ _ _ (by omega)

lemma ext2SymlinkEnter_eq {r : Resolved} (hok : (writeInode s n i).2 = true) :
    ext2SymlinkEnter s r n i =
      if (dirAddEntry (writeInode s n i).1 r.parent r.leaf n ext2FtUnknown).2 then
        ((dirAddEntry (writeInode s n i).1 r.parent r.leaf n ext2FtUnknown).1, .ok 0)
      else (freeInode (inodeClearBlocks
        (dirAddEntry (writeInode s n i).1 r.parent r.leaf n ext2FtUnknown).1 i).1 n, .error .io) := by
  simp only [ext2SymlinkEnter, hok, Bool.not_true, Bool.false_eq_true, if_false]
  cases (dirAddEntry (writeInode s n i).1 r.parent r.leaf n ext2FtUnknown).2 <;> rfl

/-- What `ext2_symlink` does with a name that is not in an existing directory. -/
lemma ext2Symlink_cases (hs : s.WellFormed L)
    (hres : resolvePath s path = some ⟨0, parent, leaf⟩) (hp0 : parent ≠ 0) (hleaf : leaf ≠ [])
    (htarget : target ≠ []) (hlen : target.length < 256) :
    (allocInode s = (s, none) ∧ ext2Symlink s target path = (s, .error .noSpace)) ∨
    ∃ n, (allocInode s).2 = some n ∧ Taken L n s (allocInode s).1 ∧
      ((inlineTargetMax < target.length ∧ freeBlocks s.mount (s.view L) = [] ∧
        ext2Symlink s target path = (freeInode (allocInode s).1 n, .error .noSpace)) ∨
      ∃ i w, Prepared L n (linkBlocks target) i s w ∧ LinkStored (w.view L) i target ∧
        (inlineTargetMax < target.length →
          (freeBlocks s.mount (s.view L)).take 1 = [i.block 0] ∧ ∀ k, k ≠ 0 → i.block k = 0) ∧
        ext2Symlink s target path =
          if (dirAddEntry w parent leaf n ext2FtUnknown).2 then
            ((dirAddEntry w parent leaf n ext2FtUnknown).1, .ok 0)
          else (freeInode (inodeClearBlocks (dirAddEntry w parent leaf n ext2FtUnknown).1 i).1 n,
            .error .io)) := by
  unfold ext2Symlink
  rw [if_neg htarget, hres]
  simp only [ne_eq, not_true_eq_false, if_false, hp0, hleaf, or_self, Nat.not_le.mpr hlen]
  rcases allocInode_taken hs.layout with hnone | ⟨n, hsome, hbad, htaken⟩
  · left
    rw [hnone]
    exact ⟨rfl, rfl⟩
  right
  refine ⟨n, hsome, htaken, ?_⟩
  rw [hsome]
  dsimp only
  rw [if_neg hbad]
  by_cases hshort : target.length ≤ inlineTargetMax
  · right
    rw [if_pos hshort]
    obtain ⟨hok, hprep⟩ := htaken.prepared hs.toInOrder (i := inlineLink target)
      (Or.inl (inlineLink_inline hshort))
    have henter := ext2SymlinkEnter_eq (r := ⟨0, parent, leaf⟩) hok
    refine ⟨inlineLink target, _, ?_, linkStored_inline hshort,
      fun h => absurd hshort (Nat.not_le.mpr h), henter⟩
    rw [linkBlocks, if_pos hshort]
    exact hprep
  · rw [if_neg hshort]
    have hlong : inlineTargetMax < target.length := Nat.lt_of_not_le hshort
    have hsize : (Ext2Inode.fresh ext2SymlinkMode target.length 1 0).size = target.length :=
      Ext2Inode.size_fresh _ _ _ (by omega)
    rcases htaken.getBlock hs.toInOrder hs.firstDataBlock
      (i := Ext2Inode.fresh ext2SymlinkMode target.length 1 0)
      (fun k => Ext2Inode.block_fresh _ _ _ _ k)
      (Ext2Inode.not_inlineSymlink_of_size (by rw [hsize]; exact hlong)) with
      ⟨hfree, hg⟩ | ⟨x, l, w, hfree, hg, hx, hk, hself, hw⟩
    · left
      rw [hg]
      exact ⟨hlong, hfree, if_pos (Or.inl rfl)⟩
    right
    obtain ⟨hok, hprep, hdata⟩ := htaken.prepared_block (j := blockLink target x) hfree hx hk hself hw
      (Bytes.patch (Bytes.ofFun w.stack) 0 target)
      ((Ext2Inode.mode_setBlocks _ _).trans (Ext2Inode.mode_setBlock _ _ _))
      ((Ext2Inode.size_setBlocks _ _).trans (Ext2Inode.size_setBlock _ _ _))
      fun k => Ext2Inode.block_setBlocks _ _ _
    have henter := ext2SymlinkEnter_eq (r := ⟨0, parent, leaf⟩) hok
    rw [hg]
    rw [if_neg hx]
    have hfb : ∀ v : Ext2View, fileBlock v (blockLink target x) 0 = x := by
      intro v
      rw [fileBlock_direct (by decide), blockLink, Ext2Inode.block_setBlocks, hself]
    have hblock : ∀ k, (blockLink target x).block k =
        ((Ext2Inode.fresh ext2SymlinkMode target.length 1 0).setBlock 0 x).block k := fun k =>
      Ext2Inode.block_setBlocks _ _ _
    refine ⟨blockLink target x, _, ?_, ⟨?_, ?_, fun h => absurd h hshort, fun _ => ⟨?_, ?_⟩⟩,
      fun _ => ⟨?_, fun k hk => ?_⟩, henter⟩
    · rw [linkBlocks, if_neg hshort]
      exact hprep
    · rw [blockLink, Ext2Inode.mode_setBlocks, Ext2Inode.mode_setBlock, Ext2Inode.mode_fresh]
      decide
    · rw [blockLink, Ext2Inode.size_setBlocks, Ext2Inode.size_setBlock, hsize]
    · rw [hfb]
      exact fun h0 => hx (Or.inl h0)
    · rw [fileData, hfb, hdata]
      exact Bytes.slice_patch_same _ _ _ (by omega)
    · rw [hblock, hself, hfree]
      rfl
    · rw [hblock, Ext2Inode.block_setBlock_of_ne _ hk, Ext2Inode.block_fresh]

lemma readlinkLen_eq {size : Nat} (h0 : 0 < size) (hsize : size < 256)
    (hmax : maxLen < 2147483648) :
    readlinkLen size maxLen = (min size maxLen : Nat) := by
  have hi : i32 size = size := i32_of_range (by omega) (by omega)
  have hm : i32 maxLen = maxLen := i32_of_range (by omega) (by omega)
  rw [readlinkLen, hi, hm, if_neg (by omega)]
  split_ifs <;> omega

lemma readlinkLen_nonpos (size : Nat) (hlt : maxLen < 4294967296) (hmax : 2147483648 ≤ maxLen) :
    readlinkLen size maxLen ≤ 0 := by
  have hm : i32 maxLen = (maxLen : Int) - 4294967296 := by
    rw [i32, Int.bmod_def]
    omega
  rw [readlinkLen, hm]
  split_ifs <;> omega

lemma ext2Readlink_stored (ht : t.InOrder L) (hlive : (t.view L).inodeUsed n = true)
    (hres : resolvePath t path = some ⟨n, parent, leaf⟩)
    (hst : LinkStored (t.view L) ((t.view L).inode n) target) (htarget : target ≠ [])
    (hlen : target.length < 256) (hmax : maxLen < 2147483648) :
    ext2Readlink t path maxLen = .ok ((min target.length maxLen : Nat), target.take maxLen) := by
  have hpos := List.length_pos_iff.mpr htarget
  have hn0 : n ≠ 0 := (inodeUsed_number ht.layout hlive).2
  have hread := readInode_eq ht.layout (inodeUsed_valid hlive)
  have hbits : ((t.view L).inode n).mode &&& ext2SymlinkBits ≠ 0 := by
    rw [hst.mode]
    decide
  have hi : i32 target.length = target.length := i32_of_range (by omega) (by omega)
  have hi0 : ¬ i32 target.length ≤ 0 := by
    omega
  have hpart : ∀ {k : Nat} (b : Bytes k) (off : Nat), b.slice off target.length = target →
      b.slice off (min target.length maxLen) = target.take maxLen := by
    intro k b off hb
    rw [Nat.min_comm, ← Bytes.slice_take, hb]
  simp only [ext2Readlink, hres, hn0, if_false, hread, hbits, hst.size, hi0,
    readlinkLen_eq hpos hlen hmax, Int.toNat_natCast]
  by_cases hshort : target.length ≤ inlineTargetMax
  · rw [if_pos hshort, hpart _ _ (hst.inline hshort)]
  · rw [if_neg hshort]
    obtain ⟨hne, hdata⟩ := hst.block (Nat.lt_of_not_le hshort)
    have hown : (t.view L).Owner n := by
      refine ⟨hlive, Ext2Inode.not_inlineSymlink_of_size ?_⟩
      rw [hst.size]
      exact Nat.lt_of_not_le hshort
    have hk := ht.working hown
    obtain ⟨-, hgood, hblk⟩ := fileBlock_data hk hne
    rw [inodeGetBlock_present hk hne]
    simp only [hgood, if_false, hblk]
    have hmap : (List.range (min target.length maxLen)).map (t.bufferGet
        (fileData (t.view L) ((t.view L).inode n) 0)) = target.take maxLen := by
      rw [← hpart _ _ hdata, Bytes.slice]
      apply List.map_congr_left
      intro k hk
      have hlt := List.mem_range.mp hk
      rw [Ext2.bufferGet, if_pos (by omega), Nat.zero_add]
    rw [hmap]

/-! ### The round trip -/

/-- The record of the next name, on which a zero byte may fall. -/
def nextName (blk : Ext2Block) (off : Nat) : CString := recordName blk (off + entRecLen blk off)

/-- The entry of a new link is found: a record that a zero byte falls on is not on the way to the
directory, and in a block that the directory grows by the search finds the new record. -/
def LinkShows (L : Ext2Layout) (s : Ext2) (front : List CString) (parent : Nat)
    (leaf target : CString) : Prop :=
  match roomIn (s.view L) ((s.view L).inode parent) leaf.length with
  | some (b, off) =>
    Clobbers (fileData (s.view L) ((s.view L).inode parent) b) off leaf →
      ¬ Passes s front parent (nextName (fileData (s.view L) ((s.view L).inode parent) b) off)
  | none => ∀ n p, (allocInode s).2 = some n →
    newBlock s.mount (s.view L) ((s.view L).inode parent)
        (blockCount ((s.view L).inode parent).size) (linkBlocks target) = some p →
      (findEntry s (addToNewBlock ((s.view L).data p) n ext2FtUnknown leaf) leaf).map
        (entInode (addToNewBlock ((s.view L).data p) n ext2FtUnknown leaf)) = some n

/-- A link that was entered is found under its path. -/
lemma link_found {front : List CString} (hs : s.WellFormed L) (hd : IsDirectory (s.view L) parent)
    (habs : dirLookup s parent leaf = none) (hleaf : GoodName leaf)
    (hn : (allocInode s).2 = some n) (hprep : Prepared L n (linkBlocks target) i s w)
    (hi : i.isDir = false) (hadd : (dirAddEntry w parent leaf n ext2FtUnknown).2 = true)
    (hwalk : walk s ext2RootInode front = some parent)
    (hshows : LinkShows L s front parent leaf target) :
    (dirAddEntry w parent leaf n ext2FtUnknown).1.InOrder L ∧
      SameFile (w.view L) ((dirAddEntry w parent leaf n ext2FtUnknown).1.view L) n ∧
      walk (dirAddEntry w parent leaf n ext2FtUnknown).1 ext2RootInode front = some parent ∧
      dirLookup (dirAddEntry w parent leaf n ext2FtUnknown).1 parent leaf = some n := by
  have hw : w.WellFormed L := hprep.wellFormed hs fun hdir => by
    rw [hi] at hdir
    cases hdir
  have hne := hprep.ne_of_live hd.1
  have hsame := hprep.same hs.toInOrder hne
  have hdw := hsame.isDirectory hd
  have hok := (hs.dirs parent hd).toDirShape
  obtain ⟨hlt, hn0⟩ := inodeUsed_number hw.layout hprep.live
  have habsw : dirLookup w parent leaf = none := (hprep.dirLookup hs hd leaf).trans habs
  -- the way to the directory is the same where each of its steps is
  have hway : ∀ t, (∀ d c x, Passes s front d c → dirLookup w d c = some x →
      IsDirectory (w.view L) d → dirLookup t d c = some x) →
      walk t ext2RootInode front = some parent := by
    intro t ht
    refine walk_along hwalk fun d c x hpass hx => ?_
    have hdir : IsDirectory (s.view L) d := by
      obtain ⟨pre, -, -, hpre⟩ := hpass
      exact (live_of_dirLookup hs (walk_live hs hpre) hx).1
    refine ht d c x hpass ((hprep.dirLookup hs hdir c).trans hx) ?_
    exact (hprep.same hs.toInOrder (hprep.ne_of_live hdir.1)).isDirectory hdir
  have hcases := dirAddEntry_cases (n := n) hw.toInOrder hw.firstDataBlock hdw
    (hw.dirs parent hdw).toDirShape ext2FtUnknown hleaf.length
  rw [hprep.roomIn hs.toInOrder hd hok] at hcases
  unfold LinkShows at hshows
  rcases hcases with ⟨b, off, hroom, -, hwr⟩ | ⟨hroom, -, p, hp, hg⟩ | ⟨hfail, -⟩ | ⟨-, hfail, -⟩
  · rw [hroom] at hshows
    have hdata := hsame.fileData hd.owner (hok.present b (roomIn_eq_some hroom).1)
    have hroomw := (hprep.roomIn hs.toInOrder hd hok leaf.length).trans hroom
    obtain ⟨hself, hothers⟩ := dirLookup_splitEntry hw hdw hwr hroomw hleaf hlt hn0
      (hw.notMem_keys hdw habsw)
    rw [hdata] at hothers
    refine ⟨hwr.inOrder, hwr.same n hne.symm, hway _ fun d c x hpass hx hdir => ?_, hself⟩
    by_cases hdp : d = parent
    · subst hdp
      rw [hothers c ?_ fun hclob => ?_, hx]
      · rintro rfl
        rw [habsw] at hx
        cases hx
      · rintro rfl
        exact hshows hclob hpass
    · rw [(hwr.same d hdp).dirLookup hw hwr.inOrder hdir, hx]
  · rw [hroom] at hshows
    have hnew := hprep.newBlock hs.toInOrder hd (blockCount ((s.view L).inode parent).size)
    rw [hsame.inode] at hnew hp
    rw [hnew] at hp
    rw [hprep.data_newBlock hs.toInOrder hd hp] at hg
    have hlook := dirLookup_grew hw hdw hg
    refine ⟨hg.inOrder, hg.same n hne.symm, hway _ fun d c x _ hx hdir => ?_, ?_⟩
    · by_cases hdp : d = parent
      · subst hdp
        rw [hlook, hx, Option.some_or]
      · rw [(hg.same d hdp).dirLookup hw hg.inOrder hdir, hx]
    · rw [hlook, habsw, Option.none_or, findEntry_stack hprep.becomes.stack]
      exact hshows n p hn hp
  · rw [hfail] at hadd
    cases hadd
  · rw [hfail] at hadd
    cases hadd

/-- After `ext2_symlink`, `ext2_readlink` gives back the first `maxLen` bytes of the target. -/
def LinkReads (s : Ext2) (target path : CString) (maxLen : Nat) : Prop :=
  ext2Readlink (ext2Symlink s target path).1 path maxLen =
    .ok ((min target.length maxLen : Nat), target.take maxLen)

lemma LinkReads.maxLen_lt (h : LinkReads s target path maxLen) (htarget : target ≠ [])
    (hmax : maxLen < 4294967296) : maxLen < 2147483648 := by
  by_contra hge
  have hpos := List.length_pos_iff.mpr htarget
  have hle := fun size => readlinkLen_nonpos size hmax (Nat.not_lt.mp hge)
  unfold LinkReads ext2Readlink at h
  have hne : ∀ (k : Int) (l : List UInt8), k ≤ 0 → (Except.ok (k, l) : Except VfsError _) ≠
      .ok ((min target.length maxLen : Nat), target.take maxLen) := by
    intro k l hk he
    simp only [Except.ok.injEq, Prod.mk.injEq] at he
    omega
  split at h
  · cases h
  · split at h
    · cases h
    · split at h
      · cases h
      · split at h
        · cases h
        · split at h
          · exact hne _ _ (Int.le_refl 0) h
          · dsimp only at h
            split at h
            · exact hne _ _ (hle _) h
            · split at h
              · cases h
              · split at h
                · cases h
                · exact hne _ _ (hle _) h

lemma LinkStored.of_same (h : LinkStored (w.view L) ((w.view L).inode n) target)
    (hlive : (w.view L).inodeUsed n = true) (hsame : SameFile (w.view L) (t.view L) n) :
    LinkStored (t.view L) ((t.view L).inode n) target where
  mode := by
    rw [hsame.inode]
    exact h.mode
  size := by
    rw [hsame.inode]
    exact h.size
  inline hshort := by
    rw [hsame.inode]
    exact h.inline hshort
  block hlong := by
    obtain ⟨hne, hdata⟩ := h.block hlong
    have hown : (w.view L).Owner n := by
      refine ⟨hlive, Ext2Inode.not_inlineSymlink_of_size ?_⟩
      rw [h.size]
      exact hlong
    exact ⟨by rwa [hsame.fileBlock hown], by rwa [hsame.fileData hown hne]⟩

section

variable (hs : s.WellFormed L) (h0 : (0 : UInt8) ∉ path) (hp : HasParent s path parent leaf)
  (htarget : target ≠ []) (hlen : target.length < 256)
  (hok : (ext2Symlink s target path).2 = .ok 0)
include hs h0 hp htarget hlen hok

lemma linkReads_of_shows (hmax : maxLen < 2147483648)
    (hshows : LinkShows L s (pathComponents path).dropLast parent leaf target) :
    LinkReads s target path maxLen := by
  obtain ⟨r, hr⟩ : ∃ r, resolvePath s path = some r := by
    cases hr : resolvePath s path with
    | none =>
      rw [ext2Symlink, if_neg htarget, hr] at hok
      cases hok
    | some r => exact ⟨r, rfl⟩
  have hzero : r.inode = 0 := by
    by_contra hne
    rw [ext2Symlink, if_neg htarget, hr] at hok
    simp only [ne_eq, hne, not_false_eq_true, if_true] at hok
    cases hok
  obtain ⟨rfl, hlive, hleaf, habs⟩ := hp.absent hs h0 hr hzero
  have hp0 := (inodeUsed_number hs.layout hlive).2
  rcases ext2Symlink_cases hs hr hp0 hleaf.ne_nil htarget hlen with ⟨-, hfail⟩ |
    ⟨n, hn, -, ⟨-, -, hfail⟩ | ⟨i, w, hprep, hst, -, heq⟩⟩
  · rw [hfail] at hok
    cases hok
  · rw [hfail] at hok
    cases hok
  have hadd : (dirAddEntry w parent leaf n ext2FtUnknown).2 = true := by
    by_contra hfalse
    rw [heq, if_neg hfalse] at hok
    cases hok
  have hd : IsDirectory (s.view L) parent := by
    rw [← hprep.isDirectory_iff (hprep.ne_of_live hlive)]
    refine ⟨hprep.inodeUsed_mono hlive, ?_⟩
    cases hdir : readDirInode w parent with
    | none =>
      rw [dirAddEntry_not_dir hdir] at hadd
      cases hadd
    | some j =>
      obtain ⟨-, rfl, hisDir⟩ := readDirInode_eq hprep.inOrder.layout hdir
      exact hisDir
  obtain ⟨front, hcs, hwalk⟩ := hp
  rw [hcs, List.dropLast_concat] at hshows
  obtain ⟨ht, hsame, hwalk', hleaf'⟩ := link_found hs hd habs hleaf hn hprep hst.isDir hadd hwalk
    hshows
  have hp' : HasParent (ext2Symlink s target path).1 path parent leaf := by
    rw [heq, if_pos hadd]
    exact ⟨front, hcs, hwalk'⟩
  have hres := hp'.resolvePath (resolvePath_head hr)
  rw [heq, if_pos hadd] at hres
  rw [hleaf', Option.getD_some] at hres
  have hstw : LinkStored (w.view L) ((w.view L).inode n) target := by
    rw [hprep.inode_self]
    exact hst
  unfold LinkReads
  rw [heq, if_pos hadd]
  exact ext2Readlink_stored ht (hsame.live hprep.live) hres (hstw.of_same hprep.live hsame) htarget
    hlen hmax

/-- A link that is found is read back in full or up to the length of the buffer; a length from
`2^31` on is never met. -/
theorem ext2Symlink_reads (hmax : maxLen < 4294967296) :
    (LinkReads s target path maxLen → maxLen < 2147483648) ∧
      (maxLen < 2147483648 → LinkShows L s (pathComponents path).dropLast parent leaf target →
        LinkReads s target path maxLen) := by
  constructor
  · intro h
    exact h.maxLen_lt htarget hmax
  · intro hlt hshows
    exact linkReads_of_shows hs h0 hp htarget hlen hok hlt hshows

end

/-- A link that holds one character. -/
theorem ext2Symlink_reads_sample : LinkReads sample [65] [slash, 108] 255 := by
  have hp : HasParent sample [slash, 108] 2 [108] := ⟨[], by decide, rfl⟩
  refine (ext2Symlink_reads sample_wellFormed (by decide) hp (by decide) (by decide)
    (by decide) (by decide)).2 (by decide) ?_
  have hroom : roomIn (sample.view sampleLayout) sampleRoot ([108] : CString).length =
      some (0, 24) := by
    rw [roomIn_sampleRoot, sample_rootData, sample_rootBlock.2.1]
    decide
  unfold LinkShows
  rw [sample_inode.2.1, hroom]
  intro hclob
  exact absurd hclob.1 (by decide)

/-- A buffer length of `2^31` is taken for a negative number. -/
theorem ext2Readlink_negative :
    sample.WellFormed sampleLayout ∧ HasParent sample [slash, 108] 2 [108] ∧
      (ext2Symlink sample [65] [slash, 108]).2 = .ok 0 ∧
      ¬ LinkReads sample [65] [slash, 108] 2147483648 := by
  refine ⟨sample_wellFormed, ⟨[], by decide, rfl⟩, by decide, fun h => ?_⟩
  exact absurd (h.maxLen_lt (by decide) (by decide)) (by decide)

end NeuroSpark
