import NeuroSpark.Ext2.ReadBack
import NeuroSpark.Ext2.Walk

/-!
# The files of an image

What a path leads to, with its size and contents as `ext2_read` gets them, and when two images have
the same files.
-/

namespace NeuroSpark

open Word Ext2View

variable {L : Ext2Layout} {d : Nat} {s t : Ext2}

/-- What an inode holds. A short symbolic link has its text in the place of the block pointers. -/
def ext2Contents (s : Ext2) (i : Ext2Inode) : Option (List UInt8) :=
  if i.InlineSymlink then some (i.slice 40 i.size) else ext2ReadLoop s i 0 i.size i.size []

/-- What a path leads to. -/
structure Ext2File where
  inodeNum : Nat
  size : Nat
  contents : Option (List UInt8)
  deriving DecidableEq

/-- Nothing can be reached before an image is mounted. -/
def ext2FileAt (s : Ext2) (path : CString) : Option Ext2File :=
  if !s.mount.mounted then none
  else
    (resolvePath s path).bind fun r =>
      if r.inode = 0 then none
      else (readInode s r.inode).map fun i => ⟨r.inode, i.size, ext2Contents s i⟩

lemma SameFile.sameBlocks {m : Nat} (h : SameFile (s.view L) (t.view L) m) (hs : s.InOrder L)
    (ht : t.HasLayout L) (hm : t.mount = s.mount) (hstack : t.stack = s.stack)
    (ho : (s.view L).Owner m) : SameBlocks s t ((s.view L).inode m) := by
  have hind := (hs.owned.slotsOk ho).indirectOk
  have hind' : IndirectOk L t.mount ((s.view L).inode m) := by
    rw [hm]
    exact hind
  have hfile : ∀ k, NeuroSpark.fileBlock (t.view L) ((s.view L).inode m) k =
      NeuroSpark.fileBlock (s.view L) ((s.view L).inode m) k := by
    intro k
    rw [← h.fileBlock ho k, h.inode]
  refine ⟨hstack, fun k => ?_, fun k hgood => ?_⟩
  · rw [inodeGetBlock_lookup hs.layout hind, inodeGetBlock_lookup ht hind']
    exact hfile k
  · rw [inodeGetBlock_lookup hs.layout hind] at hgood ⊢
    have hne : NeuroSpark.fileBlock (s.view L) ((s.view L).inode m) k ≠ 0 := by
      intro h0
      exact hgood (Or.inl h0)
    obtain ⟨sl, hsl, he⟩ := fileBlock_eq_slot hne
    obtain ⟨hv, hmeta⟩ := hs.owned.slotsOk ho sl (he ▸ hne)
    rw [he] at hv hmeta
    have hdata := h.data sl _ (held_eq_some.mpr ⟨ho, he, hne⟩)
    rw [readBlock_data hs.layout hv.2 hmeta, readBlock_data ht (by rw [hm]; exact hv.2)
      (by rw [hm]; exact hmeta), hdata]

/-- The live inodes of `s` are as they were. -/
structure SameImage (L : Ext2Layout) (s t : Ext2) : Prop where
  layout : t.HasLayout L
  mount : t.mount = s.mount
  stack : t.stack = s.stack
  same : ∀ m, (s.view L).inodeUsed m = true → SameFile (s.view L) (t.view L) m

namespace SameImage

variable (h : SameImage L s t) (hs : s.WellFormed L)
include h hs

lemma readInode {m : Nat} (hm : (s.view L).inodeUsed m = true) :
    NeuroSpark.readInode t m = NeuroSpark.readInode s m := by
  have hvalid := inodeUsed_valid hm
  rw [readInode_eq hs.layout hvalid, readInode_eq h.layout (by rw [h.mount]; exact hvalid),
    (h.same m hm).inode]

lemma sameBlocks {m : Nat} (hm : (s.view L).Owner m) : SameBlocks s t ((s.view L).inode m) :=
  (h.same m hm.1).sameBlocks hs.toInOrder h.layout h.mount h.stack hm

lemma dirLookup {d : Nat} (hd : (s.view L).inodeUsed d = true) (name : CString) :
    NeuroSpark.dirLookup t d name = NeuroSpark.dirLookup s d name := by
  by_cases hdir : IsDirectory (s.view L) d
  · have hblocks := h.sameBlocks hs hdir.owner
    simp only [NeuroSpark.dirLookup, readDirInode, h.readInode hs hd,
      readInode_eq hs.layout (inodeUsed_valid hd), Option.filter_some, hdir.2, if_true,
      hblocks.dirBlock, hblocks.findEntry]
  · have hnot : ((s.view L).inode d).isDir = false := by
      rw [← Bool.not_eq_true]
      exact fun hisDir => hdir ⟨hd, hisDir⟩
    rw [dirLookup_not_dir hs.layout hnot, dirLookup_not_dir h.layout]
    rw [(h.same d hd).inode]
    exact hnot

lemma resolveFrom (fuel : Nat) {current : Nat} (hc : (s.view L).inodeUsed current = true)
    (cursor : CString) : NeuroSpark.resolveFrom t fuel current cursor =
      NeuroSpark.resolveFrom s fuel current cursor := by
  induction fuel generalizing current cursor with
  | zero => rfl
  | succ fuel ih =>
    simp only [NeuroSpark.resolveFrom, h.dirLookup hs hc]
    cases parseComponent cursor with
    | none => rfl
    | some c =>
      dsimp only
      split
      · rfl
      · cases hx : NeuroSpark.dirLookup s current c.1 with
        | none => rfl
        | some x => exact ih (live_of_dirLookup hs hc hx).2.1 c.2

lemma resolvePath (path : CString) :
    NeuroSpark.resolvePath t path = NeuroSpark.resolvePath s path := by
  simp only [NeuroSpark.resolvePath, h.resolveFrom hs path.length hs.root.1]

lemma contents {m : Nat} (hm : (s.view L).inodeUsed m = true) :
    ext2Contents t ((s.view L).inode m) = ext2Contents s ((s.view L).inode m) := by
  unfold ext2Contents
  split_ifs with hsym
  · rfl
  · exact (h.sameBlocks hs ⟨hm, hsym⟩).readLoop 0 _ _ []

/-- Every path leads to the same file, or to none as before. -/
theorem fileAt (path : CString) : ext2FileAt t path = ext2FileAt s path := by
  rw [ext2FileAt, ext2FileAt, h.mount, h.resolvePath hs]
  cases hp : NeuroSpark.resolvePath s path with
  | none => rfl
  | some r =>
    by_cases hr : r.inode = 0
    · simp only [Option.bind_some, if_pos hr]
    · have hlive := resolvePath_live hs hp hr
      simp only [Option.bind_some, if_neg hr, h.readInode hs hlive,
        readInode_eq hs.layout (inodeUsed_valid hlive), Option.map_some, h.contents hs hlive]

end SameImage

lemma SameImage.of_sectors (hs : s.WellFormed L) (hhealthy : t.dev.Healthy)
    (hm : t.mount = s.mount) (hstack : t.stack = s.stack)
    (hblock : ∀ b < s.mount.totalBlocks, t.blockAt b = s.blockAt b) : SameImage L s t := by
  have hrole : ∀ r : MetaRole, r.Valid s.mount →
      t.blockAt (L.block s.mount r) = s.blockAt (L.block s.mount r) := by
    intro r hr
    exact hblock _ (hs.layout.fits.lt_totalBlocks r hr)
  have hlayout : t.HasLayout L := by
    refine ⟨hhealthy, by rw [hm]; exact hs.layout.fits, fun k hk => ?_⟩
    rw [hm] at hk
    have hdesc := hrole (.desc (k / 32)) ⟨k, hk, rfl⟩
    simp only [Ext2Layout.block] at hdesc
    rw [← hs.layout.desc k hk, Ext2.descAt, Ext2.descAt, hm, hdesc]
  refine ⟨hlayout, hm, hstack, fun m hlive => ⟨fun _ => ?_, ?_, fun sl p hp => ?_⟩⟩
  · have hsame : (t.view L).inodeUsed = (s.view L).inodeUsed := by
      rw [Ext2.view, Ext2.view, hm]
      exact inodeUsed_congr fun k hk => hrole (.inodeBitmap k) hk
    rw [hsame]
    exact hlive
  · have hvalid := inodeUsed_valid hlive
    have htable := hblock _ (inodeBlock_lt hs.layout hvalid)
    simp only [Ext2.view, Ext2Layout.view, hm, if_pos hvalid, htable]
  · have hlt := (blockUsed_valid (hs.owned.dataBlock hp).1).2
    simp only [Ext2.view, Ext2Layout.view, hblock p hlt]
    rw [hm]

section

variable (s : Ext2) (h : Nat) (x : Ext2Handle)

lemma dirLookup_setHandle (d : Nat) (name : CString) :
    dirLookup (s.setHandle h x) d name = dirLookup s d name := by
  have hread : readDirInode (s.setHandle h x) d = readDirInode s d := rfl
  unfold dirLookup
  rw [hread]
  cases readDirInode s d with
  | none => rfl
  | some i =>
    have hblocks := sameBlocks_setHandle s h x i
    simp only [hblocks.dirBlock, hblocks.findEntry]

lemma resolvePath_setHandle (path : CString) :
    resolvePath (s.setHandle h x) path = resolvePath s path := by
  have hfrom : ∀ fuel current cursor,
      resolveFrom (s.setHandle h x) fuel current cursor = resolveFrom s fuel current cursor := by
    intro fuel
    induction fuel with
    | zero => exact fun _ _ => rfl
    | succ fuel ih =>
      intro current cursor
      simp only [resolveFrom, dirLookup_setHandle, ih]
  simp only [resolvePath, hfrom]

lemma ext2FileAt_setHandle (path : CString) :
    ext2FileAt (s.setHandle h x) path = ext2FileAt s path := by
  have hcontents : ext2Contents (s.setHandle h x) = ext2Contents s := by
    funext i
    simp only [ext2Contents, (sameBlocks_setHandle s h x i).readLoop]
  unfold ext2FileAt
  rw [resolvePath_setHandle, hcontents]
  rfl

end

end NeuroSpark
