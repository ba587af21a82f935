import NeuroSpark.Ext2.InOrder
import NeuroSpark.Ext2.DirBlock

/-!
# Directories as association lists

The listing of a directory is that of its blocks, one after the other. In a well-formed image
looking up a name in a directory is looking it up in the listing, and adding an entry either splits
a record of an existing block or lets the directory grow by a block.
-/

namespace NeuroSpark

open Word Ext2View

variable {L : Ext2Layout} {n d : Nat} {s s' : Ext2} {i : Ext2Inode} {v v' : Ext2View}
  {name : CString} {b : Nat}

/-- The data of a block of a file. -/
def fileData (v : Ext2View) (i : Ext2Inode) (b : Nat) : Ext2Block := v.data (fileBlock v i b)

def dirListing (v : Ext2View) (i : Ext2Inode) : Listing :=
  (List.range (blockCount i.size)).flatMap fun b => blockListing (fileData v i b)

/-- A live inode that the driver takes for a directory. -/
def IsDirectory (v : Ext2View) (d : Nat) : Prop :=
  v.inodeUsed d = true ∧ (v.inode d).isDir = true

/-- A directory has whole blocks and all of them are there. -/
structure DirShape (v : Ext2View) (i : Ext2Inode) : Prop where
  size : i.size = blockCount i.size * 1024
  present : ∀ b < blockCount i.size, fileBlock v i b ≠ 0

/-- The blocks of a directory are in order and its names are distinct. -/
structure DirRecords (v : Ext2View) (i : Ext2Inode) : Prop extends DirShape v i where
  blocks : ∀ b < blockCount i.size, BlockOk (fileData v i b)
  names : (dirListing v i).NodupKeys

/-- The image is in order and `d` is a directory with records in order. -/
structure Ext2.HasDirectory (s : Ext2) (L : Ext2Layout) (d : Nat) : Prop where
  inOrder : s.InOrder L
  firstDataBlock : 1 ≤ s.mount.firstDataBlock
  isDirectory : IsDirectory (s.view L) d
  records : DirRecords (s.view L) ((s.view L).inode d)

/-- The blocks of a directory are in order, its names are distinct and its entries stand for live
inodes. -/
structure DirOk (v : Ext2View) (i : Ext2Inode) : Prop extends DirShape v i where
  blocks : ∀ b < blockCount i.size, BlockOk (fileData v i b)
  names : (dirListing v i).NodupKeys
  live : ∀ e ∈ dirListing v i, v.inodeUsed e.2 = true

lemma DirOk.records (h : DirOk v i) : DirRecords v i := ⟨h.toDirShape, h.blocks, h.names⟩

/-- An image in order whose directories are in order, with a root directory. -/
structure Ext2.WellFormed (L : Ext2Layout) (s : Ext2) : Prop extends s.InOrder L where
  firstDataBlock : 1 ≤ s.mount.firstDataBlock
  root : IsDirectory (s.view L) ext2RootInode
  dirs : ∀ d, IsDirectory (s.view L) d → DirOk (s.view L) ((s.view L).inode d)

lemma IsDirectory.owner (h : IsDirectory v d) : v.Owner d :=
  ⟨h.1, Ext2Inode.not_inlineSymlink_of_isDir h.2⟩

lemma Ext2.InOrder.working (hs : s.InOrder L) (hd : (s.view L).Owner d) :
    Working L d s ((s.view L).inode d) := hs.owned.working hs.layout hd

lemma IsDirectory.readDirInode (hs : s.HasLayout L) (hd : IsDirectory (s.view L) d) :
    readDirInode s d = some ((s.view L).inode d) := by
  rw [NeuroSpark.readDirInode, readInode_eq hs (inodeUsed_valid hd.1)]
  exact Option.filter_some_pos hd.2

lemma inodeGetBlock_present (hk : Working L n s i) (h : fileBlock (s.view L) i b ≠ 0)
    (create : Bool) : inodeGetBlock s i b create = (s, i, fileBlock (s.view L) i b) := by
  obtain ⟨sl, hsl, hslot⟩ := fileBlock_eq_slot h
  rw [← hslot] at h ⊢
  unfold fileSlot at hsl
  unfold inodeGetBlock
  split_ifs at hsl with hlt hj
  · cases hsl
    rw [if_pos hlt, if_neg fun hc => h hc.1]
    rfl
  · cases hsl
    have h12 : i.block 12 ≠ 0 := by
      intro h0
      simp only [slot, if_pos h0] at h
      exact h rfl
    obtain ⟨hused, hmeta⟩ := slot_dataBlock hk (.ptr 12) h12
    have hread : readBlock s (i.block 12) = some ((s.view L).data (i.block 12)) :=
      readBlock_data hk.layout (blockUsed_valid hused).2 hmeta
    have hptrs : ¬ inodePtrsPerBlock ≤ b - 12 := by
      simp only [inodePtrsPerBlock, ext2BlockSize]
      omega
    simp only [slot, if_neg h12] at h ⊢
    rw [if_neg hlt, if_neg hptrs]
    simp only [indirectGetBlock, hread]
    rw [if_neg fun hc => h hc.1]

lemma fileBlock_data (hk : Working L n s i) (h : fileBlock (s.view L) i b ≠ 0) :
    (s.view L).blockUsed (fileBlock (s.view L) i b) = true ∧
      ¬ BadNum (fileBlock (s.view L) i b) ∧
      readBlock s (fileBlock (s.view L) i b) = some (fileData (s.view L) i b) := by
  obtain ⟨sl, -, hslot⟩ := fileBlock_eq_slot h
  obtain ⟨hused, hmeta⟩ := slot_dataBlock hk sl (hslot ▸ h)
  rw [hslot] at hused hmeta
  exact ⟨hused, blockUsed_not_badNum hk.layout.fits hused h,
    readBlock_data hk.layout (blockUsed_valid hused).2 hmeta⟩

lemma dirBlock_present (hk : Working L n s i) (h : fileBlock (s.view L) i b ≠ 0) :
    dirBlock s i b = some (fileBlock (s.view L) i b, fileData (s.view L) i b) := by
  obtain ⟨-, hgood, hread⟩ := fileBlock_data hk h
  simp only [dirBlock, inodeGetBlock_present hk h, if_neg hgood, hread, Option.map_some]

lemma fileBlock_lt (h : fileBlock v i b ≠ 0) : b < 268 := by
  obtain ⟨sl, hsl, -⟩ := fileBlock_eq_slot h
  unfold fileSlot at hsl
  split_ifs at hsl <;> omega

lemma DirShape.blockCount_le (h : DirShape v i) : blockCount i.size ≤ 268 := by
  by_contra hlt
  have h₁ := fileBlock_lt (h.present 268 (by omega))
  omega

lemma findSome?_congr {α β : Type*} {f g : α → Option β} {l : List α} (h : ∀ a ∈ l, f a = g a) :
    l.findSome? f = l.findSome? g := by
  induction l with
  | nil => rfl
  | cons a l ih =>
    rw [List.findSome?_cons, List.findSome?_cons, h a (List.mem_cons_self ..),
      ih fun b hb => h b (List.mem_cons_of_mem _ hb)]

lemma dirLookup_blocks (hs : s.InOrder L) (hd : IsDirectory (s.view L) d)
    (hshape : DirShape (s.view L) ((s.view L).inode d)) (name : CString) :
    dirLookup s d name = (List.range (blockCount ((s.view L).inode d).size)).findSome? fun b =>
      (findEntry s (fileData (s.view L) ((s.view L).inode d) b) name).map
        (entInode (fileData (s.view L) ((s.view L).inode d) b)) := by
  rw [dirLookup, IsDirectory.readDirInode hs.layout hd]
  apply findSome?_congr
  intro b hb
  rw [dirBlock_present (hs.working hd.owner) (hshape.present b (List.mem_range.mp hb))]

lemma findSome?_eq_dlookup {bs : List Nat} {f : Nat → Ext2Block} (h : ∀ b ∈ bs, BlockOk (f b))
    (s : Ext2) (name : CString) :
    (bs.findSome? fun b => (findEntry s (f b) name).map (entInode (f b))) =
      (bs.flatMap fun b => blockListing (f b)).dlookup name := by
  induction bs with
  | nil => rfl
  | cons b bs ih =>
    have ih := ih fun b' hb' => h b' (List.mem_cons_of_mem _ hb')
    rw [List.findSome?_cons, List.flatMap_cons, List.dlookup_append, ← ih,
      ← (h b (List.mem_cons_self ..)).findEntry_eq s name]
    cases findEntry s (f b) name <;> rfl

/-- Looking up a name in a directory. -/
theorem dirLookup_eq (hs : s.InOrder L) (hd : IsDirectory (s.view L) d)
    (hshape : DirShape (s.view L) ((s.view L).inode d))
    (hblocks : ∀ b < blockCount ((s.view L).inode d).size,
      BlockOk (fileData (s.view L) ((s.view L).inode d) b)) (name : CString) :
    dirLookup s d name = (dirListing (s.view L) ((s.view L).inode d)).dlookup name := by
  rw [dirLookup_blocks hs hd hshape]
  exact findSome?_eq_dlookup (fun b hb => hblocks b (List.mem_range.mp hb)) s name

lemma DirRecords.dirLookup_eq (h : DirRecords (s.view L) ((s.view L).inode d)) (hs : s.InOrder L)
    (hd : IsDirectory (s.view L) d) (name : CString) :
    dirLookup s d name = (dirListing (s.view L) ((s.view L).inode d)).dlookup name :=
  NeuroSpark.dirLookup_eq hs hd h.toDirShape h.blocks name

lemma Ext2.WellFormed.dirLookup (hs : s.WellFormed L) (hd : IsDirectory (s.view L) d)
    (name : CString) :
    dirLookup s d name = (dirListing (s.view L) ((s.view L).inode d)).dlookup name :=
  dirLookup_eq hs.toInOrder hd (hs.dirs d hd).toDirShape (hs.dirs d hd).blocks name

lemma dirLookup_not_dir (hs : s.HasLayout L) (hd : ((s.view L).inode d).isDir = false)
    (name : CString) : dirLookup s d name = none := by
  cases hdir : readDirInode s d with
  | none => rw [dirLookup, hdir]
  | some j =>
    obtain ⟨-, rfl, hisDir⟩ := readDirInode_eq hs hdir
    rw [hd] at hisDir
    cases hisDir

/-! ### Inodes that stay as they are -/

/-- A live inode has the same fields and the same data in its blocks. -/
structure SameFile (v v' : Ext2View) (m : Nat) : Prop where
  live : v.inodeUsed m = true → v'.inodeUsed m = true
  inode : v'.inode m = v.inode m
  data : ∀ sl p, v.held m sl = some p → v'.data p = v.data p

namespace SameFile

variable {m : Nat} {v'' : Ext2View}

lemma refl (v : Ext2View) (m : Nat) : SameFile v v m := ⟨fun h => h, rfl, fun _ _ _ => rfl⟩

section

variable (h : SameFile v v' m) (ho : v.Owner m)
include h ho

lemma owner : v'.Owner m :=
  ⟨h.live ho.1, by rw [h.inode]; exact ho.2⟩

lemma slot (sl : PtrSlot) : v'.slot (v'.inode m) sl = v.slot (v.inode m) sl := by
  rw [h.inode]
  exact slot_congr (fun h12 => h.data (.ptr 12) _ (held_eq_some.mpr ⟨ho, rfl, h12⟩)) sl

lemma held (sl : PtrSlot) : v'.held m sl = v.held m sl := by
  apply Option.ext
  intro p
  rw [held_eq_some, held_eq_some, h.slot ho]
  exact and_congr_left fun _ => ⟨fun _ => ho, fun _ => h.owner ho⟩

lemma fileBlock (b : Nat) : fileBlock v' (v'.inode m) b = fileBlock v (v.inode m) b := by
  unfold NeuroSpark.fileBlock
  rw [funext (h.slot ho)]

lemma fileData {b : Nat} (hb : NeuroSpark.fileBlock v (v.inode m) b ≠ 0) :
    fileData v' (v'.inode m) b = fileData v (v.inode m) b := by
  obtain ⟨sl, -, hslot⟩ := fileBlock_eq_slot hb
  rw [NeuroSpark.fileData, NeuroSpark.fileData, h.fileBlock ho]
  exact h.data sl _ (held_eq_some.mpr ⟨ho, hslot, hb⟩)

lemma dirShape (hok : DirShape v (v.inode m)) : DirShape v' (v'.inode m) := by
  refine ⟨by rw [h.inode]; exact hok.size, fun b hb => ?_⟩
  rw [h.fileBlock ho]
  rw [h.inode] at hb
  exact hok.present b hb

lemma dirListing (hok : DirShape v (v.inode m)) :
    dirListing v' (v'.inode m) = dirListing v (v.inode m) := by
  unfold NeuroSpark.dirListing
  rw [show blockCount (v'.inode m).size = blockCount (v.inode m).size by rw [h.inode]]
  apply List.flatMap_congr
  intro b hb
  rw [h.fileData ho (hok.present b (List.mem_range.mp hb))]

lemma dirOk (hok : DirOk v (v.inode m))
    (hlive : ∀ e ∈ NeuroSpark.dirListing v (v.inode m), v'.inodeUsed e.2 = true) :
    DirOk v' (v'.inode m) where
  toDirShape := h.dirShape ho hok.toDirShape
  blocks b hb := by
    rw [h.inode] at hb
    rw [h.fileData ho (hok.present b hb)]
    exact hok.blocks b hb
  names := by
    rw [h.dirListing ho hok.toDirShape]
    exact hok.names
  live := by
    rw [h.dirListing ho hok.toDirShape]
    exact hlive

end

lemma isDirectory (h : SameFile v v' m) (hd : IsDirectory v m) : IsDirectory v' m :=
  ⟨h.live hd.1, by rw [h.inode]; exact hd.2⟩

lemma dirLookup (h : SameFile (s.view L) (s'.view L) m) (hs : s.WellFormed L) (hs' : s'.InOrder L)
    (hd : IsDirectory (s.view L) m) (name : CString) :
    dirLookup s' m name = dirLookup s m name := by
  have hok := hs.dirs m hd
  rw [hs.dirLookup hd, dirLookup_eq hs' (h.isDirectory hd) (h.dirShape hd.owner hok.toDirShape),
    h.dirListing hd.owner hok.toDirShape]
  intro b hb
  rw [h.inode] at hb
  rw [h.fileData hd.owner (hok.present b hb)]
  exact hok.blocks b hb

end SameFile

lemma Extends.sameFile {S : PtrSlot → Prop} {i' : Ext2Inode} {m : Nat}
    (h : Extends L n S IsFileSlot s i s' i') (hk : Working L n s i) (hm : m ≠ n) :
    SameFile (s.view L) (s'.view L) m := by
  refine ⟨fun hu => by rwa [h.inodeUsed], congrFun h.inode m, fun sl p hp => ?_⟩
  have hheld : ((s.view L).withInode n i).held m sl = some p := by
    rwa [held_withInode_of_ne hm]
  have hne : p ≠ 0 := (held_eq_some.mp hp).2.2
  have happart : ∀ sl', (s.view L).slot i sl' ≠ p := by
    intro sl' he
    exact hm (hk.owned.exclusive.unique hheld
      (held_withInode_same.mpr ⟨hk.live, hk.notInline, he, hne⟩)).1
  exact h.data p (hk.owned.exclusive.used hheld).1 (happart (.ptr 12)).symm
    fun sl' _ => happart sl'

/-! ### Adding an entry -/

/-- The first block of a directory in which a record has room behind it, with that record. -/
def roomIn (v : Ext2View) (i : Ext2Inode) (nameLen : Nat) : Option (Nat × Nat) :=
  (List.range (blockCount i.size)).findSome? fun b =>
    ((dirOffsets (fileData v i b)).find? (hasRoom (fileData v i b) nameLen)).map fun off => (b, off)

/-- What the block that a directory grows by holds in the end. The driver does not clear it first,
and uses the records that it finds there. -/
def addToNewBlock (stale : Ext2Block) (inodeNum fileType : Nat) (name : CString) : Ext2Block :=
  match (dirOffsets stale).find? (hasRoom stale name.length) with
  | some off => splitEntry stale off inodeNum fileType name
  | none => putEntry Bytes.zero 0 inodeNum ext2BlockSize fileType name

lemma roomIn_eq_some {nameLen b off : Nat} (h : roomIn v i nameLen = some (b, off)) :
    b < blockCount i.size ∧ off ∈ dirOffsets (fileData v i b) ∧
      hasRoom (fileData v i b) nameLen off = true := by
  obtain ⟨b', hb', hfind⟩ := List.exists_of_findSome?_eq_some h
  obtain ⟨off', hoff', heq⟩ := Option.map_eq_some_iff.mp hfind
  cases heq
  exact ⟨List.mem_range.mp hb', List.mem_of_find?_eq_some hoff', List.find?_some hoff'⟩

section

variable (hk : Working L d s i) (hok : DirShape (s.view L) i) (fileType : Nat)
include hk hok

lemma dirAddEntryFrom_eq (m : Nat) {b : Nat} (hb : b + m = blockCount i.size) :
    dirAddEntryFrom d name n fileType (blockCount i.size) (m + 1) s i b =
      match (List.range' b m).findSome? (fun b =>
        ((dirOffsets (fileData (s.view L) i b)).find?
          (hasRoom (fileData (s.view L) i b) name.length)).map fun off => (b, off)) with
      | some (b, off) => (writeBlock s (fileBlock (s.view L) i b)
          (splitEntry (fileData (s.view L) i b) off n fileType name), true)
      | none => dirAddEntryFrom d name n fileType (blockCount i.size) 1 s i (blockCount i.size) := by
  induction m generalizing b with
  | zero =>
    obtain rfl : b = blockCount i.size := hb
    rfl
  | succ m ih =>
    have hlt : b < blockCount i.size := by omega
    have hne := hok.present b hlt
    obtain ⟨-, hgood, hread⟩ := fileBlock_data hk hne
    have hcount := hok.blockCount_le
    have hsize := hok.size
    rw [dirAddEntryFrom, inodeGetBlock_present hk hne, List.range'_succ, List.findSome?_cons]
    simp only [if_neg hgood, hread]
    cases (dirOffsets (fileData (s.view L) i b)).find?
      (hasRoom (fileData (s.view L) i b) name.length) with
    | some off =>
      have hge : ¬ i.size < u32 ((b + 1) * ext2BlockSize) := by
        simp only [ext2BlockSize]
        rw [u32_of_lt (by omega)]
        omega
      simp only [Option.map_some, if_neg hge]
    | none =>
      simp only [Option.map_none, if_neg (Nat.not_le.mpr hlt)]
      exact ih (by omega)

/-- The last round of the loop, at a block that the directory does not have yet. -/
lemma dirAddEntryFrom_last :
    dirAddEntryFrom d name n fileType (blockCount i.size) 1 s i (blockCount i.size) =
      if BadNum (inodeGetBlock s i (blockCount i.size) true).2.2 then
        ((inodeGetBlock s i (blockCount i.size) true).1, false)
      else
        ((writeInode (writeBlock (inodeGetBlock s i (blockCount i.size) true).1
            (inodeGetBlock s i (blockCount i.size) true).2.2
            (addToNewBlock (((inodeGetBlock s i (blockCount i.size) true).1.view L).data
              (inodeGetBlock s i (blockCount i.size) true).2.2) n fileType name)) d
          ((inodeGetBlock s i (blockCount i.size) true).2.1.setSize (i.size + 1024))).1, true) := by
  have hcount := hok.blockCount_le
  have hsize := hok.size
  obtain ⟨hext, hres⟩ := getBlock_extends hk (blockCount i.size)
  rw [dirAddEntryFrom]
  have hsizeEq : (inodeGetBlock s i (blockCount i.size) true).2.1.size = i.size := hext.size
  dsimp only
  generalize inodeGetBlock s i (blockCount i.size) true = g at hext hres hsizeEq ⊢
  obtain ⟨t, j, p⟩ := g
  split
  · rfl
  · rename_i hgood
    obtain ⟨sl, hsl, hg⟩ := hres.resolve_left hgood
    have hkt := hext.working hk
    have hu : u32 ((blockCount i.size + 1) * ext2BlockSize) = i.size + 1024 := by
      simp only [ext2BlockSize]
      rw [u32_of_lt (by omega)]
      omega
    rw [hg.read hkt, hu, hsizeEq]
    dsimp only
    unfold addToNewBlock
    cases (dirOffsets ((t.view L).data p)).find? (hasRoom ((t.view L).data p) name.length) with
    | some off => exact if_pos (by omega)
    | none =>
      have hadd : u32 (i.size + ext2BlockSize) = i.size + 1024 := u32_of_lt (by
        simp only [ext2BlockSize]
        omega)
      rw [if_pos (Nat.le_refl _), hadd]
      -- the inode is a valid one, so it is stored
      have hw := (hg.write (S := IsFileSlot) hkt hsl
        (putEntry Bytes.zero 0 n ext2BlockSize fileType name)).1.working hkt
      have hstored := (writeInode_spec hw.layout (inodeUsed_valid hw.live)
        (j.setSize (i.size + 1024))).1
      exact Prod.ext rfl hstored

end

/-- `dir_add_entry` on a directory of a well-formed image. -/
theorem dirAddEntry_eq (hs : s.InOrder L) (hd : IsDirectory (s.view L) d)
    (hok : DirShape (s.view L) ((s.view L).inode d)) (hname : name.length < 256) (fileType : Nat) :
    dirAddEntry s d name n fileType =
      match roomIn (s.view L) ((s.view L).inode d) name.length with
      | some (b, off) => (writeBlock s (fileBlock (s.view L) ((s.view L).inode d) b)
          (splitEntry (fileData (s.view L) ((s.view L).inode d) b) off n fileType name), true)
      | none => dirAddEntryFrom d name n fileType (blockCount ((s.view L).inode d).size) 1 s
          ((s.view L).inode d) (blockCount ((s.view L).inode d).size) := by
  have htake : name.take ext2NameMax = name :=
    List.take_of_length_le (Nat.le_of_lt_succ hname)
  rw [dirAddEntry, IsDirectory.readDirInode hs.layout hd]
  dsimp only
  rw [htake, dirAddEntryFrom_eq (hs.working hd.owner) hok fileType _ (Nat.zero_add _), roomIn,
    List.range_eq_range']

end NeuroSpark
