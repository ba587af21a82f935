import NeuroSpark.Ext2.Creation
import NeuroSpark.Ext2.Files
import NeuroSpark.Ext2.Frame

/-!
# What a call of `ext2_open` changes

The sectors that a call writes lie inside the image. A call alters the image when it creates a file
or truncates one that holds something; any other call leaves every file as it is, and one that is to
alter something fails only for want of a handle.
-/

namespace NeuroSpark

open Word Ext2View

variable {L : Ext2Layout} {n d : Nat} {s t u w : Ext2} {i : Ext2Inode}
  {path leaf : CString} {flags : UInt32}

/-! ### The sectors of the partition -/

/-- A sector of the mounted image. -/
def Ext2MountState.Covers (m : Ext2MountState) (lba : Nat) : Prop :=
  m.partitionLba ≤ lba ∧ lba < m.partitionLba + 2 * m.totalBlocks

lemma Ext2MountState.covers_block {m : Ext2MountState}
    (hm : m.partitionLba + 2 * m.totalBlocks ≤ 4294967296) {b : Nat} (hb : b < m.totalBlocks) :
    m.Covers (blockToLba m b) ∧ m.Covers (u32 (blockToLba m b + 1)) := by
  have hlow := blockToLba_eq hm hb
  have hhigh : u32 (blockToLba m b + 1) = m.partitionLba + 2 * b + 1 := by
    rw [hlow]
    exact u32_of_lt (by omega)
  exact ⟨⟨by omega, by omega⟩, ⟨by omega, by omega⟩⟩

/-- Outside the image the device is as it was. -/
structure WritesInside (s t : Ext2) : Prop where
  mount : t.mount = s.mount
  outside : ∀ lba, ¬ s.mount.Covers lba → t.dev.sectors lba = s.dev.sectors lba

namespace WritesInside

lemma refl (s : Ext2) : WritesInside s s := ⟨rfl, fun _ _ => rfl⟩

lemma trans (h : WritesInside s t) (h' : WritesInside t u) : WritesInside s u := by
  refine ⟨h'.mount.trans h.mount, fun lba hlba => ?_⟩
  rw [h'.outside lba (by rwa [h.mount]), h.outside lba hlba]

section

variable (hs : s.HasLayout L)
include hs

lemma writeBlock {b : Nat} (hb : b < s.mount.totalBlocks) (buf : Ext2Block) :
    WritesInside s (writeBlock s b buf) := by
  refine ⟨rfl, fun lba hlba => ?_⟩
  obtain ⟨hlow, hhigh⟩ := Ext2MountState.covers_block hs.fits.blocks hb
  have hne₁ : lba ≠ blockToLba s.mount b := by
    rintro rfl
    exact hlba hlow
  have hne₂ : lba ≠ u32 (blockToLba s.mount b + 1) := by
    rintro rfl
    exact hlba hhigh
  unfold NeuroSpark.writeBlock
  rw [(hs.healthy.write _ _).sectors_write, hs.healthy.sectors_write, Function.update_of_ne hne₂,
    Function.update_of_ne hne₁]

lemma role {r : MetaRole} (hr : r.Valid s.mount) (buf : Ext2Block) :
    WritesInside s (NeuroSpark.writeBlock s (L.block s.mount r) buf) :=
  writeBlock hs (hs.fits.lt_totalBlocks r hr) buf

lemma allocInode : WritesInside s (allocInode s).1 := by
  rcases allocInode_marks hs with hnone | ⟨n, hn, -, heq⟩
  · rw [hnone]
    exact .refl s
  · rw [heq]
    exact role hs (inodeBitmap_valid hn) _

lemma freeInode (hn : ValidInode s.mount n) : WritesInside s (freeInode s n) := by
  rw [freeInode_marks hs hn]
  exact role hs (inodeBitmap_valid hn) _

lemma writeInode (hn : ValidInode s.mount n) (i : Ext2Inode) :
    WritesInside s (writeInode s n i).1 := by
  simp only [NeuroSpark.writeInode, inodePlace_eq hs hn, readBlock_eq hs.healthy]
  exact writeBlock hs (inodeBlock_lt hs hn) _

lemma allocGoodBlock : WritesInside s (allocGoodBlock s).1 := by
  have halloc : WritesInside s (allocBlock s).1 := by
    rcases allocBlock_marks hs with hnone | ⟨x, hx, -, heq⟩
    · rw [hnone]
      exact .refl s
    · rw [heq]
      exact role hs (blockBitmap_valid hx) _
  unfold NeuroSpark.allocGoodBlock
  dsimp only
  split
  · exact halloc
  · split_ifs <;> exact halloc

lemma indirectGetBlock {b : Nat} (hb : b < s.mount.totalBlocks) (k : Nat) :
    WritesInside s (indirectGetBlock s b k true).1 := by
  have hfirst := allocGoodBlock hs
  unfold NeuroSpark.indirectGetBlock
  rw [readBlock_eq hs.healthy]
  dsimp only
  split_ifs
  · rcases allocGoodBlock_spec hs with ⟨hnone, -⟩ | ⟨hnone, -⟩ | ⟨x, hx, -, -, -, hbec⟩
    · rw [hnone]
      exact hfirst
    · rw [hnone]
      exact hfirst
    · rw [hx]
      exact hfirst.trans (writeBlock hbec.layout (by rw [hbec.mount]; exact hb) _)
  · exact .refl s

end

lemma inodeGetBlock (hk : Working L n s i) (k : Nat) :
    WritesInside s (inodeGetBlock s i k true).1 := by
  have hs := hk.layout
  have hfirst := allocGoodBlock hs
  unfold NeuroSpark.inodeGetBlock
  simp only [and_true, Bool.not_true, Bool.false_eq_true, if_false]
  by_cases hdirect : k < 12
  · split_ifs
    · split <;> exact hfirst
    · exact .refl s
  · rw [if_neg hdirect]
    by_cases hbig : inodePtrsPerBlock ≤ k - 12
    · rw [if_pos hbig]
      exact .refl s
    · rw [if_neg hbig]
      by_cases h12 : i.block 12 = 0
      · -- the indirect block is new
        rw [if_pos h12]
        rcases allocGoodBlock_spec hs with ⟨hnone, -⟩ | ⟨hnone, -⟩ |
          ⟨x, hx, hgood, hvalid, hfree, hbec⟩
        · rw [hnone]
          exact hfirst
        · rw [hnone]
          exact hfirst
        · rw [hx]
          have hlt : x < (NeuroSpark.allocGoodBlock s).1.mount.totalBlocks := by
            rw [hbec.mount]
            exact hvalid.2
          have hlayout := (extends_indirect (S := fun _ => False) (W := fun _ => False) hk h12
            hvalid hgood hfree hbec).1.becomes.layout
          exact (hfirst.trans (writeBlock hbec.layout hlt Bytes.zero)).trans
            (indirectGetBlock hlayout hlt _)
      · rw [if_neg h12]
        have hused := (slot_dataBlock hk (.ptr 12) h12).1
        exact indirectGetBlock hs (blockUsed_valid hused).2 _

lemma dirAddEntry (hs : s.WellFormed L) (hd : IsDirectory (s.view L) d) {name : CString}
    {fileType : Nat} (hname : name.length < 256)
    (hfail : (dirAddEntry s d name n fileType).2 = false) :
    WritesInside s (dirAddEntry s d name n fileType).1 := by
  have hk := hs.toInOrder.working hd.owner
  have hok := (hs.dirs d hd).toDirShape
  rw [dirAddEntry_eq hs.toInOrder hd hok hname] at hfail ⊢
  split at hfail
  · cases hfail
  · rw [dirAddEntryFrom_last hk hok] at hfail ⊢
    split_ifs at hfail ⊢
    · exact inodeGetBlock hk _

end WritesInside

/-- The entry of a new name finds a place, in a block of its directory or in one more. -/
def EntryFits (m : Ext2MountState) (v : Ext2View) (i : Ext2Inode) (nameLen : Nat) : Prop :=
  roomIn v i nameLen ≠ none ∨
    blockCount i.size < 268 ∧ newBlock m v i (blockCount i.size) 0 ≠ none

lemma dirAddEntry_ok_iff (hs : s.WellFormed L) (hd : IsDirectory (s.view L) d) {name : CString}
    (hname : name.length < 256) (fileType : Nat) :
    (dirAddEntry s d name n fileType).2 = true ↔
      EntryFits s.mount (s.view L) ((s.view L).inode d) name.length := by
  rcases dirAddEntry_cases (n := n) hs.toInOrder hs.firstDataBlock hd (hs.dirs d hd).toDirShape
    fileType hname with ⟨b, off, hroom, hok, -⟩ | ⟨-, hok, p, hp, hg⟩ | ⟨heq, -, hroom, hno, -⟩ |
    ⟨hleak, hfail, -⟩
  · refine iff_of_true hok (Or.inl ?_)
    rw [hroom]
    exact Option.some_ne_none _
  · refine iff_of_true hok (Or.inr ⟨hg.count, ?_⟩)
    rw [hp]
    exact Option.some_ne_none _
  · rw [heq]
    refine iff_of_false Bool.false_ne_true ?_
    rintro (h | ⟨hcount, h⟩)
    · exact h hroom
    · exact h (hno hcount)
  · rw [hfail]
    refine iff_of_false Bool.false_ne_true ?_
    rintro (h | ⟨-, h⟩)
    · exact h hleak.1
    · exact h hleak.newBlock

/-- An indirect block may have been taken that no inode refers to. -/
structure OnlyBlocks (L : Ext2Layout) (s t : Ext2) : Prop where
  becomes : s.Becomes t L (t.view L)
  inodeUsed : (t.view L).inodeUsed = (s.view L).inodeUsed
  inode : (t.view L).inode = (s.view L).inode
  same : ∀ m, SameFile (s.view L) (t.view L) m
  inside : WritesInside s t

lemma dirAddEntry_fails (hs : s.WellFormed L) (hd : (s.view L).inodeUsed d = true) {name : CString}
    {fileType : Nat} (hname : name.length < 256)
    (hfail : (dirAddEntry s d name n fileType).2 = false) :
    OnlyBlocks L s (dirAddEntry s d name n fileType).1 := by
  have hnone : OnlyBlocks L s s := ⟨hs.layout.becomes, rfl, rfl, .refl _, .refl s⟩
  by_cases hdir : IsDirectory (s.view L) d
  swap
  · rw [dirAddEntry_not_dir (readDirInode_of_not_dir hs.layout hd hdir)]
    exact hnone
  · have hinside := WritesInside.dirAddEntry hs hdir hname hfail
    rcases dirAddEntry_cases (n := n) hs.toInOrder hs.firstDataBlock hdir
      (hs.dirs d hdir).toDirShape fileType hname with ⟨-, -, -, hadd, -⟩ | ⟨-, hadd, -⟩ |
      ⟨heq, -⟩ | ⟨hleak, -, x, -, hext⟩
    · rw [hadd] at hfail
      cases hfail
    · rw [hadd] at hfail
      cases hfail
    · rw [heq]
      exact hnone
    · refine ⟨hext.becomes, hext.inodeUsed, hext.inode, fun m => ?_, hinside⟩
      by_cases hm : m = d
      · refine ⟨fun hu => ?_, congrFun hext.inode m, fun sl p hp => ?_⟩
        · rw [hext.inodeUsed]
          exact hu
        · apply hext.data p (hs.owned.dataBlock hp).1
          · rw [hleak.2.2.1]
            exact (held_eq_some.mp hp).2.2
          · exact fun _ h => h.elim
      · exact (hext.mono (fun _ h => h) fun _ h => h.elim).sameFile
          (hs.toInOrder.working hdir.owner) hm

/-! ### Creating -/

lemma SameImage.of_givenBack (hs : s.WellFormed L) (hprep : Prepared L n 0 newFileInode s w)
    (hdrop : OnlyBlocks L w t) : SameImage L s (freeInode t n) := by
  have hmount := hdrop.becomes.mount.trans hprep.becomes.mount
  have hvalid : ValidInode t.mount n := by
    rw [hmount]
    exact hprep.valid
  have hb := freeInode_spec hdrop.becomes.layout hvalid
  refine ⟨hb.layout, hb.mount.trans hmount,
    hb.stack.trans (hdrop.becomes.stack.trans hprep.becomes.stack), fun m hm => ?_⟩
  have hne := hprep.ne_of_live hm
  have hsame := hprep.same hs.toInOrder hne
  rw [hb.view]
  refine ⟨fun _ => ?_, ?_, fun sl p hp => ?_⟩
  · dsimp only
    rw [Function.update_of_ne hne, hdrop.inodeUsed]
    exact hsame.live hm
  · rw [hdrop.inode, hsame.inode]
  · have hown := (held_eq_some.mp hp).1
    exact ((hdrop.same m).data sl p ((hsame.held hown sl).trans hp)).trans (hsame.data sl p hp)

section

variable (hs : s.WellFormed L) {parent : Nat} (hp : (s.view L).inodeUsed parent = true)
  (hleaf : GoodName leaf)
include hs hp hleaf

/-- A file that is not created leaves nothing behind but lost blocks. -/
lemma ext2Create_fails {e : VfsError} (herr : (ext2Create s parent leaf).2 = .error e) :
    SameImage L s (ext2Create s parent leaf).1 ∧
      (ext2Create s parent leaf).1.handles = s.handles ∧
      WritesInside s (ext2Create s parent leaf).1 := by
  rcases ext2Create_cases hs.toInOrder parent leaf with ⟨-, heq⟩ | ⟨n, w, hsome, hprep, hwrite, heq⟩
  · rw [heq]
    exact ⟨⟨hs.layout, rfl, rfl, fun m _ => .refl _ m⟩, rfl, .refl s⟩
  · have hw := hprep.wellFormed hs fun hdir => absurd hdir (by decide)
    have hfail : (dirAddEntry w parent leaf n ext2FtRegFile).2 = false := by
      rw [← Bool.not_eq_true]
      intro hadd
      rw [heq, if_pos hadd] at herr
      cases herr
    have hdrop := dirAddEntry_fails (n := n) hw (hprep.inodeUsed_mono hp) hleaf.length hfail
    have hvalid : ValidInode (dirAddEntry w parent leaf n ext2FtRegFile).1.mount n := by
      rw [hdrop.becomes.mount, hprep.becomes.mount]
      exact hprep.valid
    have hfirst : WritesInside s w := by
      rcases allocInode_spec hs.layout with hnone | ⟨n', hsome', hvalid', -, hb⟩
      · rw [hnone] at hsome
        cases hsome
      · obtain rfl : n' = n := Option.some.inj (hsome'.symm.trans hsome)
        rw [hwrite]
        refine (WritesInside.allocInode hs.layout).trans (.writeInode hb.layout ?_ _)
        rw [hb.mount]
        exact hvalid'
    rw [heq, if_neg (by rw [hfail]; exact Bool.false_ne_true)]
    refine ⟨.of_givenBack hs hprep hdrop, ?_, ?_⟩
    · exact (freeInode_spec hdrop.becomes.layout hvalid).handles.trans
        (hdrop.becomes.handles.trans hprep.becomes.handles)
    · exact (hfirst.trans hdrop.inside).trans (.freeInode hdrop.becomes.layout hvalid)

lemma ext2Create_ok_iff : (∃ n, (ext2Create s parent leaf).2 = .ok n) ↔
    freeInodes s.mount (s.view L) ≠ [] ∧ IsDirectory (s.view L) parent ∧
      EntryFits s.mount (s.view L) ((s.view L).inode parent) leaf.length := by
  rw [ne_eq, ← allocInode_eq_none_iff hs.layout, ← ne_eq]
  rcases ext2Create_cases hs.toInOrder parent leaf with ⟨hnone, heq⟩ | ⟨n, w, hsome, hprep, -, heq⟩
  · rw [heq, hnone]
    refine iff_of_false ?_ fun h => h.1 rfl
    rintro ⟨n, hn⟩
    cases hn
  · have hw := hprep.wellFormed hs fun hdir => absurd hdir (by decide)
    have hne := hprep.ne_of_live hp
    have hok : (∃ n, (ext2Create s parent leaf).2 = .ok n) ↔
        (dirAddEntry w parent leaf n ext2FtRegFile).2 = true := by
      rw [heq]
      cases (dirAddEntry w parent leaf n ext2FtRegFile).2 with
      | true => exact iff_of_true ⟨n, rfl⟩ rfl
      | false =>
        refine iff_of_false ?_ Bool.false_ne_true
        rintro ⟨n, hn⟩
        cases hn
    rw [hok, hsome]
    by_cases hd : IsDirectory (s.view L) parent
    · have hshape := (hs.dirs parent hd).toDirShape
      have hdw := (hprep.same hs.toInOrder hne).isDirectory hd
      rw [dirAddEntry_ok_iff hw hdw hleaf.length, EntryFits, EntryFits,
        hprep.roomIn hs.toInOrder hd hshape, hprep.newBlock hs.toInOrder hd,
        hprep.inode_dir hs.toInOrder hd]
      simp [hd]
    · rw [dirAddEntry_not_dir (hprep.readDirInode_of_not_dir hp hd)]
      exact iff_of_false Bool.false_ne_true fun h => hd h.2.1

omit hleaf in
lemma ext2Create_opens (hok : (ext2Create s parent leaf).2 = .ok n)
    (hfree : ext2HandleAlloc s ≠ none) :
    ∃ h, (ext2OpenInode (ext2Create s parent leaf).1 n flags).2 = .ok h := by
  rcases ext2Create_cases hs.toInOrder parent leaf with ⟨-, heq⟩ | ⟨n', w, -, hprep, -, heq⟩
  · rw [heq] at hok
    cases hok
  · have hw := hprep.wellFormed hs fun hdir => absurd hdir (by rw [newFileInode_isDir]; decide)
    have hne := hprep.ne_of_live hp
    rw [heq] at hok ⊢
    split at hok
    · cases hok
      rename_i hadd
      rw [if_pos hadd]
      have hgrown := dirAddEntry_grown' hw.toInOrder
        (parentOk_of_live hw.layout (hprep.inodeUsed_mono hp)) leaf n ext2FtRegFile
      have hown : ((dirAddEntry w parent leaf n ext2FtRegFile).1.view L).Owner n := by
        refine ⟨by rw [hgrown.inodeUsed]; exact hprep.live, ?_⟩
        rw [hgrown.inode n hne.symm, hprep.inode_self]
        exact newFileInode_notInline
      cases hres : (ext2OpenInode (dirAddEntry w parent leaf n ext2FtRegFile).1 n flags).2 with
      | ok h => exact ⟨h, rfl⟩
      | error e =>
        have halloc := (ext2OpenInode_fails hgrown.inOrder hown hres).1
        rw [ext2HandleAlloc_handles (hgrown.becomes.handles.trans hprep.becomes.handles)] at halloc
        exact absurd halloc hfree
    · cases hok

end

lemma diskWriteSectorUncached_self (d : Device) (lba : Nat) :
    diskWriteSectorUncached d lba (d.contents lba) = d := by
  unfold diskWriteSectorUncached Device.contents
  split
  · rfl
  · rw [Function.update_eq_self]

lemma writeBlock_readBlock {b : Nat} {raw : Ext2Block} (h : readBlock s b = some raw) :
    writeBlock s b raw = s := by
  unfold readBlock diskReadSectorUncached at h
  dsimp only at h
  split_ifs at h
  cases h
  simp only [writeBlock, lowerHalf_joinSectors, upperHalf_joinSectors,
    diskWriteSectorUncached_self]

lemma writeInode_readInode (h : readInode s n = some i) : writeInode s n i = (s, true) := by
  unfold readInode at h
  unfold writeInode
  cases hplace : inodePlace s n with
  | none =>
    rw [hplace] at h
    cases h
  | some p =>
    rw [hplace] at h
    dsimp only at h ⊢
    obtain ⟨raw, hraw, rfl⟩ := Option.map_eq_some_iff.mp h
    rw [hraw]
    dsimp only
    rw [Bytes.patch_eq_self, writeBlock_readBlock hraw]
    intro j hj hlt
    rw [Bytes.length_slice] at hj
    rw [Bytes.getElem_slice, Nat.zero_add, Bytes.get_ofFun _ hj, Ext2.bufferGet, if_pos hlt]

/-- The inode has no bytes and no blocks. -/
def Ext2Inode.IsEmpty (i : Ext2Inode) : Prop := i.size = 0 ∧ i.le32 28 = 0 ∧ ∀ k < 13, i.block k = 0

lemma ext2TruncateInode_empty (h : readInode s n = some i) (hi : i.IsEmpty) :
    ext2TruncateInode s n 0 = (s, true) := by
  obtain ⟨hsize, hblocks, hptr⟩ := hi
  have hsetSize : i.setSize 0 = i := by
    have hself := Bytes.setLe32_le32 i 4
    rwa [show i.le32 4 = 0 from hsize] at hself
  have hsetBlocks : i.setBlocks 0 = i := by
    have hself := Bytes.setLe32_le32 i 28
    rwa [hblocks] at hself
  have hclear : inodeClearBlocks s i = (s, i) := by
    have hskip : (List.range 12).foldl clearDirect (s, i) = (s, i) := by
      apply foldl_clearDirect_skip
      intro k hk
      exact hptr k (Nat.lt_succ_of_lt (List.mem_range.mp hk))
    simp only [inodeClearBlocks, hskip, hptr 12 (by decide), ne_eq, not_true_eq_false, if_false,
      hsetSize, hsetBlocks]
  simp only [ext2TruncateInode, h, hsize, lt_self_iff_false, if_false, if_true, hclear, hsetSize,
    writeInode_readInode h]

/-! ### Opening -/

/-- An open handle on an inode, at its start. -/
def newHandle (n : Nat) (flags : UInt32) : Ext2Handle := ⟨true, 1, n, 0, flags⟩

/-- The last part of `ext2_open` gave a free handle of `s`, or it failed. -/
inductive Ext2Gives (s : Ext2) (flags : UInt32) : Ext2 × VfsResult → Prop
  | error (e : VfsError) : Ext2Gives s flags (s, .error e)
  | ok (h n : Nat) : h < ext2MaxHandles → (s.handles h).used = false →
      Ext2Gives s flags (s.setHandle h (newHandle n flags), .ok h)

lemma ext2OpenInode_gives
    (hempty : flags &&& vfsOTrunc ≠ 0 → ∀ i, readInode s n = some i → i.IsEmpty) :
    Ext2Gives s flags (ext2OpenInode s n flags) := by
  unfold ext2OpenInode
  cases hi : readInode s n with
  | none => exact .error _
  | some i =>
    have htrunc : (if flags &&& vfsOTrunc ≠ 0 then ext2TruncateInode s n 0 else (s, true)) =
        (s, true) := by
      split_ifs with hflag
      · exact ext2TruncateInode_empty hi (hempty hflag i hi)
      · rfl
    simp only [htrunc, hi, Option.isNone_some, Bool.not_true, Bool.false_eq_true, if_false]
    cases hh : ext2HandleAlloc s with
    | none => exact .error _
    | some h =>
      have hused := List.find?_some hh
      simp only [Bool.not_eq_eq_eq_not, Bool.not_true] at hused
      exact .ok h n (List.mem_range.mp (List.mem_of_find?_eq_some hh)) hused

/-- The path leads nowhere and the call is to create a file. -/
def Ext2OpenCreates (s : Ext2) (path : CString) (flags : UInt32) (r : Resolved) : Prop :=
  s.mount.mounted = true ∧ resolvePath s path = some r ∧ r.inode = 0 ∧ flags &&& vfsOCreat ≠ 0

/-- The call creates a file, or it truncates one that has bytes or blocks. -/
def Ext2OpenAlters (s : Ext2) (path : CString) (flags : UInt32) : Prop :=
  (∃ r, Ext2OpenCreates s path flags r ∧ ∃ L, s.WellFormed L ∧
    freeInodes s.mount (s.view L) ≠ [] ∧ IsDirectory (s.view L) r.parent ∧
      EntryFits s.mount (s.view L) ((s.view L).inode r.parent) r.leaf.length) ∨
  s.mount.mounted = true ∧ flags &&& vfsOTrunc ≠ 0 ∧ ∃ r i, resolvePath s path = some r ∧
    r.inode ≠ 0 ∧ readInode s r.inode = some i ∧ ¬ i.IsEmpty

section

variable (hfit : ∀ r, Ext2OpenCreates s path flags r → (0 : UInt8) ∉ path ∧ ∃ L, s.WellFormed L)
include hfit

/-- A call that alters nothing leaves the image as it is, or gives back the inode of a file that it
could not enter. -/
theorem ext2Open_unaltered (hno : ¬ Ext2OpenAlters s path flags) :
    ∃ u, Ext2Gives u flags (ext2Open s path flags) ∧ u.handles = s.handles ∧
      (u = s ∨ ∃ r L, Ext2OpenCreates s path flags r ∧ s.WellFormed L ∧ SameImage L s u ∧
        WritesInside s u) := by
  have hself : ∀ r, Ext2Gives s flags r → ∃ u, Ext2Gives u flags r ∧ u.handles = s.handles ∧
      (u = s ∨ ∃ r L, Ext2OpenCreates s path flags r ∧ s.WellFormed L ∧ SameImage L s u ∧
        WritesInside s u) :=
    fun r hr => ⟨s, hr, rfl, Or.inl rfl⟩
  unfold ext2Open
  by_cases hm : s.mount.mounted = true
  swap
  · rw [Bool.not_eq_true] at hm
    rw [hm]
    exact hself _ (.error _)
  · simp only [hm, Bool.not_true, Bool.false_eq_true, if_false]
    cases hr : resolvePath s path with
    | none => exact hself _ (.error _)
    | some r =>
      dsimp only
      by_cases hzero : r.inode = 0
      · rw [if_pos hzero]
        by_cases hcreat : flags &&& vfsOCreat = 0
        · rw [if_pos hcreat]
          exact hself _ (.error _)
        · rw [if_neg hcreat]
          have hc : Ext2OpenCreates s path flags r := ⟨hm, hr, hzero, hcreat⟩
          obtain ⟨h0, L, hs⟩ := hfit r hc
          obtain ⟨hlive, hgood, -⟩ := resolvePath_missing hs h0 hr hzero
          cases hres : (ext2Create s r.parent r.leaf).2 with
          | error e =>
            obtain ⟨himage, hhandles, hinside⟩ := ext2Create_fails hs hlive hgood hres
            exact ⟨_, .error e, hhandles, Or.inr ⟨r, L, hc, hs, himage, hinside⟩⟩
          | ok n =>
            have hok := (ext2Create_ok_iff hs hlive hgood).mp ⟨n, hres⟩
            exact absurd (Or.inl ⟨r, hc, L, hs, hok⟩) hno
      · rw [if_neg hzero]
        refine hself _ (ext2OpenInode_gives fun hflag i hi => ?_)
        by_contra hne
        exact hno (Or.inr ⟨hm, hflag, r, i, hr, hzero, hi, hne⟩)

/-- A call that alters something succeeds as long as a handle is free. -/
theorem ext2Open_ok_of_alters (hhealthy : s.dev.Healthy) (hfree : ext2HandleAlloc s ≠ none)
    (halters : Ext2OpenAlters s path flags) : ∃ h, (ext2Open s path flags).2 = .ok h := by
  unfold ext2Open
  rcases halters with ⟨r, hc, L, hs, hok⟩ | ⟨hm, hflag, r, i, hr, hzero, hi, -⟩
  · obtain ⟨hm, hr, hzero, hcreat⟩ := id hc
    obtain ⟨hlive, hgood, -⟩ := resolvePath_missing hs (hfit r hc).1 hr hzero
    obtain ⟨n, hn⟩ := (ext2Create_ok_iff hs hlive hgood).mpr hok
    simp only [hm, hr, hzero, hn, Bool.not_true, Bool.false_eq_true, if_false, if_true,
      if_neg hcreat]
    exact ext2Create_opens hs hlive hn hfree
  · obtain ⟨hok, hread⟩ := ext2TruncateInode_ok hhealthy (Option.isSome_iff_exists.mpr ⟨i, hi⟩)
    have hhandles := Ext2.handles_eq (ext2TruncateInode_frame s r.inode 0)
    simp only [hm, hr, if_neg hzero, Bool.not_true, Bool.false_eq_true, if_false, ext2OpenInode,
      hi, Option.isNone_some, if_pos hflag, hok, ext2HandleAlloc_handles hhandles]
    have hsome : ¬ (readInode (ext2TruncateInode s r.inode 0).1 r.inode).isNone = true := by
      rw [Option.isNone_iff_eq_none, ← ne_eq, ← Option.isSome_iff_ne_none]
      exact hread
    rw [if_neg hsome]
    cases halloc : ext2HandleAlloc s with
    | none => exact absurd halloc hfree
    | some h => exact ⟨h, rfl⟩

end

end NeuroSpark
