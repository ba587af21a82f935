import NeuroSpark.Disk.Faults
import NeuroSpark.Tfs.Handles
import NeuroSpark.Vfs.Backends

/-!
# Opening files of TFS and of the RAM disk

`tfs_open` and `ramdisk_open` create or truncate the file before they look for a handle. A call that
does neither leaves all files as they are, and a call that does either can only fail for want of a
handle.
-/

namespace NeuroSpark

open Word

/-- A file with a name of its own. -/
structure StoredFile where
  name : CString
  size : Nat
  bytes : List UInt8
  deriving DecidableEq

/-- The directory as the next call that takes a path reads it. -/
def Tfs.directory (s : Tfs) : TfsDirectory := s.rootDirectory.overlay (s.disk.view tfsDirLba)

def Tfs.fileAt (s : Tfs) (i : Fin 25) : Option StoredFile :=
  if s.directory.flags i = 1 then
    some ⟨s.directory.name i, s.directory.size i, { s with rootDirectory := s.directory }.contents i⟩
  else none

def Ramdisk.fileAt (s : Ramdisk) (i : Fin 64) : Option StoredFile :=
  if (s.files i).used then
    some ⟨(s.files i).name, (s.files i).size, (s.files i).data.slice 0 (s.files i).size⟩
  else none

/-- The call creates a file, or it truncates one that has bytes. -/
def TfsOpenAlters (s : Tfs) (path : CString) (flags : UInt32) : Prop :=
  s.ataDiskAvailable = true ∧ ∃ nm, normalizeTfsName path = some nm ∧
    (tfsFindEntryByName s.directory nm = none ∧ flags &&& vfsOCreat ≠ 0 ∧
        findFreeSlot s.directory ≠ none ∨
      flags &&& vfsOTrunc ≠ 0 ∧
        ∃ i, tfsFindEntryByName s.directory nm = some i ∧ s.directory.size i ≠ 0)

/-- The disk shows the same, and at most the directory has more to be written back. -/
structure Tfs.SameDisk (s t : Tfs) : Prop where
  ready : t.disk.Ready
  view : t.disk.view = s.disk.view
  directory : t.directory = s.directory
  dirty : ∀ i lba, t.disk.Holds i lba → (t.disk.line i).dirty = true → lba ≠ tfsDirLba →
    s.disk.Holds i lba ∧ (s.disk.line i).dirty = true

section

variable {s t : Tfs} {path : CString} {flags : UInt32}

namespace Tfs.SameDisk

lemma refl (hs : s.disk.Ready) : s.SameDisk s := ⟨hs, rfl, rfl, fun _ _ hi hd _ => ⟨hi, hd⟩⟩

lemma setHandle (h : s.SameDisk t) (k : Nat) (x : TfsHandle) : s.SameDisk (t.setHandle k x) :=
  ⟨h.ready, h.view, h.directory, h.dirty⟩

lemma fileAt (h : s.SameDisk t) : t.fileAt = s.fileAt := by
  funext i
  simp only [Tfs.fileAt, Tfs.contents, h.directory, h.view]

lemma loadDirectory (hs : s.disk.Ready) :
    s.SameDisk s.loadDirectory ∧ s.loadDirectory.rootDirectory = s.directory := by
  obtain ⟨hready, hview, hdir⟩ := Tfs.loadDirectory_spec hs
  have hawaits := diskReadSector_awaits s.disk tfsDirLba (s.rootDirectory.resize : Sector)
  refine ⟨⟨hready, hview, ?_, fun i lba hi hd _ => hawaits i lba hi hd⟩, hdir⟩
  rw [Tfs.directory, hdir, hview, Bytes.overlay_overlay]
  rfl

lemma storeDirectory (h : s.SameDisk t) (hdir : t.rootDirectory = s.directory) :
    s.SameDisk t.storeDirectory := by
  obtain ⟨hready, hview⟩ := Tfs.updateDirectory_spec h.ready t.rootDirectory
  have hsector : (t.rootDirectory.resize : Sector) = s.disk.view tfsDirLba := by
    rw [hdir]
    exact Bytes.resize_overlay _ _ (by decide)
  have hsame : t.storeDirectory.disk.view = s.disk.view := by
    rw [← h.view, show t.storeDirectory.disk.view = _ from hview, hsector, h.view,
      Function.update_eq_self]
  refine ⟨hready, hsame, ?_, fun i lba hi hd hne => ?_⟩
  · have hroot : t.storeDirectory.rootDirectory = t.rootDirectory := rfl
    rw [← h.directory, Tfs.directory, hroot, hsame, ← h.view]
    rfl
  · obtain ⟨hti, htd⟩ := pageCacheWriteSector_awaits t.disk _ hne hi hd
    exact h.dirty i lba hti htd hne

end Tfs.SameDisk

lemma tfsOpenEntry_sameDisk (h : s.SameDisk t) (hdir : t.rootDirectory = s.directory) {i : Fin 25}
    (hempty : flags &&& vfsOTrunc ≠ 0 → s.directory.size i = 0) :
    s.SameDisk (tfsOpenEntry t i flags).1 := by
  have htrunc : s.SameDisk (if flags &&& vfsOTrunc ≠ 0 then
      t.updateDirectory (t.rootDirectory.setSize i 0) else t) := by
    split_ifs with hflag
    · have hself := Bytes.setLe32_le32 s.directory (24 * i + 16)
      rw [show s.directory.le32 (24 * i + 16) = 0 from hempty hflag] at hself
      have hset : t.rootDirectory.setSize i 0 = t.rootDirectory := by
        rw [hdir]
        exact hself
      rw [Tfs.updateDirectory, hset]
      exact h.storeDirectory hdir
    · exact h
  unfold tfsOpenEntry
  dsimp only
  split
  · exact htrunc
  · exact htrunc.setHandle _ _

lemma tfsOpen_unaltered (hs : s.disk.Ready) (hno : ¬ TfsOpenAlters s path flags) :
    s.SameDisk (tfsOpen s path flags).1 := by
  obtain ⟨hload, hdir⟩ := Tfs.SameDisk.loadDirectory hs
  unfold tfsOpen
  cases hata : s.ataDiskAvailable with
  | false => exact .refl hs
  | true =>
    simp only [Bool.not_true, Bool.false_eq_true, if_false]
    cases hnm : normalizeTfsName path with
    | none => exact .refl hs
    | some nm =>
      dsimp only
      rw [hdir]
      cases hfind : tfsFindEntryByName s.directory nm with
      | some i =>
        refine tfsOpenEntry_sameDisk hload hdir fun hflag => ?_
        by_contra hne
        exact hno ⟨hata, nm, hnm, Or.inr ⟨hflag, i, hfind, hne⟩⟩
      | none =>
        dsimp only
        split
        · exact hload
        · rename_i hcreat
          cases hslot : findFreeSlot s.directory with
          | none => exact hload
          | some i =>
            refine absurd ⟨hata, nm, hnm, Or.inl ⟨hfind, hcreat, ?_⟩⟩ hno
            rw [hslot]
            exact Option.some_ne_none i

lemma tfsOpenEntry_ok (hfree : tfsAllocHandle t ≠ none) (i : Fin 25) :
    ∃ h, (tfsOpenEntry t i flags).2 = .ok h := by
  have hsame : tfsAllocHandle (if flags &&& vfsOTrunc ≠ 0 then
      t.updateDirectory (t.rootDirectory.setSize i 0) else t) = tfsAllocHandle t := by
    split_ifs <;> rfl
  obtain ⟨h, hh⟩ := Option.ne_none_iff_exists'.mp hfree
  refine ⟨h, ?_⟩
  unfold tfsOpenEntry
  dsimp only
  rw [hsame, hh]

lemma tfsOpen_ok_of_alters (hs : s.disk.Ready) (hfree : tfsAllocHandle s ≠ none)
    (halters : TfsOpenAlters s path flags) : ∃ h, (tfsOpen s path flags).2 = .ok h := by
  obtain ⟨-, hdir⟩ := Tfs.SameDisk.loadDirectory hs
  obtain ⟨hata, nm, hnm, hcase⟩ := halters
  unfold tfsOpen
  simp only [hata, hnm, hdir, Bool.not_true, Bool.false_eq_true, if_false]
  rcases hcase with ⟨hfind, hcreat, hslot⟩ | ⟨-, i, hfind, -⟩
  · obtain ⟨i, hi⟩ := Option.ne_none_iff_exists'.mp hslot
    simp only [hfind, if_neg hcreat, hi]
    exact tfsOpenEntry_ok (by exact hfree) i
  · simp only [hfind]
    exact tfsOpenEntry_ok (by exact hfree) i

end

/-- The call creates a file, or it truncates one that has bytes. -/
def RamdiskOpenAlters (s : Ramdisk) (path : CString) (flags : UInt32) : Prop :=
  ∃ nm, ramdiskExtractName path = some nm ∧
    (ramdiskFindEntry s nm = none ∧ flags &&& vfsOCreat ≠ 0 ∧ ramdiskAllocEntry s ≠ none ∨
      flags &&& vfsOTrunc ≠ 0 ∧
        ∃ i, ramdiskFindEntry s nm = some i ∧ (s.files i).size ≠ 0)

section

variable {s : Ramdisk} {path : CString} {flags : UInt32}

lemma ramdiskOpenEntry_fileAt (s : Ramdisk) (i : Fin 64) (flags : UInt32) :
    (ramdiskOpenEntry s i flags).1.fileAt = s.fileAt := by
  unfold ramdiskOpenEntry
  split <;> rfl

lemma ramdiskOpen_unaltered (hno : ¬ RamdiskOpenAlters s path flags) :
    (ramdiskOpen s path flags).1.fileAt = s.fileAt := by
  unfold ramdiskOpen
  cases hnm : ramdiskExtractName path with
  | none => rfl
  | some nm =>
    dsimp only
    cases hfind : ramdiskFindEntry s nm with
    | none =>
      dsimp only
      split
      · rfl
      · rename_i hcreat
        cases hslot : ramdiskAllocEntry s with
        | none => rfl
        | some i =>
          refine absurd ⟨nm, hnm, Or.inl ⟨hfind, hcreat, ?_⟩⟩ hno
          rw [hslot]
          exact Option.some_ne_none i
    | some i =>
      dsimp only
      split
      · rename_i hflag
        have hsize : (s.files i).size = 0 := by
          by_contra hne
          exact hno ⟨nm, hnm, Or.inr ⟨hflag, i, hfind, hne⟩⟩
        rw [ramdiskOpenEntry_fileAt]
        funext j
        by_cases hj : j = i
        · subst hj
          simp [Ramdisk.fileAt, Ramdisk.touch, Ramdisk.setFile, hsize]
        · simp [Ramdisk.fileAt, Ramdisk.touch, Ramdisk.setFile, hj]
      · exact ramdiskOpenEntry_fileAt s i flags

lemma ramdiskOpenEntry_ok (hfree : ramdiskAllocHandle s ≠ none) (i : Fin 64) :
    ∃ h, (ramdiskOpenEntry s i flags).2 = .ok h := by
  obtain ⟨h, hh⟩ := Option.ne_none_iff_exists'.mp hfree
  refine ⟨h, ?_⟩
  unfold ramdiskOpenEntry
  rw [hh]

lemma ramdiskOpen_ok_of_alters (hfree : ramdiskAllocHandle s ≠ none)
    (halters : RamdiskOpenAlters s path flags) : ∃ h, (ramdiskOpen s path flags).2 = .ok h := by
  obtain ⟨nm, hnm, ⟨hfind, hcreat, hslot⟩ | ⟨hflag, i, hfind, -⟩⟩ := halters
  · obtain ⟨i, hi⟩ := Option.ne_none_iff_exists'.mp hslot
    simp only [ramdiskOpen, hnm, hfind, if_neg hcreat, hi]
    exact ramdiskOpenEntry_ok (by exact hfree) i
  · simp only [ramdiskOpen, hnm, hfind, if_pos hflag]
    exact ramdiskOpenEntry_ok (by exact hfree) i

end

end NeuroSpark
