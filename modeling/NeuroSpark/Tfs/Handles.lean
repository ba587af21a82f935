import Mathlib.Data.Set.BooleanAlgebra
import Mathlib.Order.CompletePartialOrder
import NeuroSpark.Tfs.Isolation

/-!
# Handles and the files they were opened on

A handle stores the slot of its file and nothing else, while `tfs_delete` and `tfs_open` recycle
slots. To say which file a handle belongs to, `TfsTracked` numbers the files in the order of their
creation, beside the state of the file system. A handle stays with its file as long as no file is
deleted while it is open and no file outgrows the sector of its slot.
-/

namespace NeuroSpark

open Function (update update_self update_of_ne)
open Word

variable {g : TfsTracked} {s : Tfs} {h : Nat} {d : TfsDirectory} {i : Fin 25}

/-- A file system with the number of the file in each slot and of the file each handle was opened
on. -/
structure TfsTracked where
  fs : Tfs
  fileId : Fin 25 → Nat
  openedId : Nat → Nat
  created : Nat

/-- The slot in which `tfs_open` creates a file, if it does. -/
def tfsOpenCreates (s : Tfs) (path : CString) (flags : UInt32) : Option (Fin 25) :=
  if !s.ataDiskAvailable then none
  else
    match normalizeTfsName path with
    | none => none
    | some nm =>
      match tfsFindEntryByName s.loadDirectory.rootDirectory nm with
      | some _ => none
      | none => if flags &&& vfsOCreat = 0 then none else findFreeSlot s.loadDirectory.rootDirectory

/-- The numbers after `tfs_open`: a created file gets the next one. -/
def TfsTracked.noteOpen (g : TfsTracked) (path : CString) (flags : UInt32) : TfsTracked :=
  let s := (tfsOpen g.fs path flags).1
  let fileId := match tfsOpenCreates g.fs path flags with
    | some i => Function.update g.fileId i g.created
    | none => g.fileId
  let openedId := match (tfsOpen g.fs path flags).2 with
    | .ok h => Function.update g.openedId h (fileId (s.handles h).entryIdx)
    | .error _ => g.openedId
  ⟨s, fileId, openedId, g.created + 1⟩

def tfsTrackedStep (g : TfsTracked) (o : TfsOp) : TfsTracked × TfsAnswer :=
  match o with
  | .openFile path flags => (g.noteOpen path flags, (tfsStep g.fs o).2)
  | _ => ({ g with fs := (tfsStep g.fs o).1 }, (tfsStep g.fs o).2)

/-- The bytes of the disk that belong to the file in slot `i`. -/
def Tfs.extent (s : Tfs) (i : Fin 25) : Set Nat :=
  { a | 512 * s.rootDirectory.lba i ≤ a ∧ a < 512 * s.rootDirectory.lba i + s.rootDirectory.size i }

/-- The contents of the file in slot `i`. -/
def Tfs.contents (s : Tfs) (i : Fin 25) : List UInt8 :=
  (List.range (s.rootDirectory.size i)).map fun k =>
    flatByte s.disk.view (512 * s.rootDirectory.lba i + k)

/-- The handle an operation works through. -/
def TfsOp.handle : TfsOp → Option Nat
  | .read h _ | .write h _ | .close h | .lseek h _ _ | .ftruncate h _ => some h
  | .openFile _ _ | .delete _ | .rename _ _ | .truncate _ _ => none

/-- Operation `o` through handle `h` keeps to the file on which `h` was opened: it changes neither
size nor contents of any other file, and what it returns are bytes of its own file, which shares
none with another. -/
structure TfsTracked.StaysInFile (g : TfsTracked) (o : TfsOp) (h : Nat) : Prop where
  others : ∀ j, g.fs.rootDirectory.flags j = 1 → g.fileId j ≠ g.openedId h →
    (tfsStep g.fs o).1.rootDirectory.words j = g.fs.rootDirectory.words j ∧
      (tfsStep g.fs o).1.contents j = g.fs.contents j
  reads : ∀ n bytes, o = .read h n → (tfsStep g.fs o).2 = .data (.ok bytes) →
    ∃ i, g.fs.rootDirectory.flags i = 1 ∧ g.fileId i = g.openedId h ∧
      bytes = ((g.fs.contents i).drop (g.fs.handles h).pos).take n ∧
      ∀ j, g.fs.rootDirectory.flags j = 1 → g.fileId j ≠ g.openedId h →
        Disjoint (g.fs.extent i) (g.fs.extent j)

/-- The condition on each step: a file is deleted only while no handle on it is open, and no file
is made longer than the one sector of its slot. -/
def TfsKeepsFiles (g : TfsTracked) : TfsOp → Prop
  | .delete path => ∀ nm i, normalizeTfsName path = some nm →
      tfsFindEntryByName g.fs.loadDirectory.rootDirectory nm = some i →
      ∀ h, g.fs.IsOpen h → (g.fs.handles h).entryIdx ≠ i
  | .write h buf => buf ≠ [] → g.fs.IsOpen h → tfsWritable (g.fs.handles h).flags →
      (g.fs.handles h).pos + buf.length ≤ tfsSectorSize
  | .ftruncate h size => g.fs.IsOpen h → size ≤ tfsSectorSize
  | .truncate _ size => size ≤ tfsSectorSize
  | _ => True

/-! ### The invariant -/

/-- The directory in memory agrees with the stored one. -/
def Tfs.Synced (s : Tfs) : Prop := s.rootDirectory.overlay (s.disk.view tfsDirLba) = s.rootDirectory

/-- A volume in order: the stored directory is current, and every file lies in the sector of its
own slot. -/
structure Tfs.Volume (s : Tfs) : Prop where
  sane : s.Sane
  synced : s.Synced
  files : ∀ i, s.rootDirectory.flags i = 1 →
    s.rootDirectory.lba i = tfsDataStart + i ∧ s.rootDirectory.size i ≤ tfsSectorSize

structure TfsTracked.Inv (g : TfsTracked) : Prop where
  volume : g.fs.Volume
  handles : ∀ h, g.fs.IsOpen h → g.fs.rootDirectory.flags (g.fs.handles h).entryIdx = 1 ∧
    g.fileId (g.fs.handles h).entryIdx = g.openedId h
  distinct : ∀ i j, g.fs.rootDirectory.flags i = 1 → g.fs.rootDirectory.flags j = 1 →
    g.fileId i = g.fileId j → i = j
  old : ∀ i, g.fileId i < g.created

lemma Tfs.synced_updateDirectory (hs : s.disk.Ready) (d : TfsDirectory) :
    (s.updateDirectory d).Synced := by
  have hv : (s.updateDirectory d).disk.view tfsDirLba = d.resize := by
    rw [(Tfs.updateDirectory_spec hs d).2, update_self]
  rw [Tfs.Synced, hv]
  exact Bytes.overlay_resize d

lemma Tfs.Synced.loadDirectory (h : s.Synced) (hs : s.disk.Ready) :
    s.loadDirectory.rootDirectory = s.rootDirectory ∧ s.loadDirectory.Synced := by
  obtain ⟨_, hv, hd⟩ := Tfs.loadDirectory_spec hs
  have hd' : s.loadDirectory.rootDirectory = s.rootDirectory := hd.trans h
  refine ⟨hd', ?_⟩
  rw [Tfs.Synced, hd', hv]
  exact h

section

variable (hs : s.Volume)
include hs

lemma Tfs.Volume.updateDirectory
    (hd : ∀ i, d.flags i = 1 → d.lba i = tfsDataStart + i ∧ d.size i ≤ tfsSectorSize) :
    (s.updateDirectory d).Volume :=
  ⟨hs.sane.updateDirectory d, Tfs.synced_updateDirectory hs.sane.ready d, hd⟩

lemma Tfs.Volume.loadDirectory : s.loadDirectory.Volume := by
  obtain ⟨hd, hsync⟩ := hs.synced.loadDirectory hs.sane.ready
  refine ⟨hs.sane.loadDirectory, hsync, ?_⟩
  rw [hd]
  exact hs.files

omit hs in
lemma TfsDirectory.setSize_files {v : Nat} (hv : v ≤ tfsSectorSize)
    (hd : ∀ j, d.flags j = 1 → d.lba j = tfsDataStart + j ∧ d.size j ≤ tfsSectorSize) :
    ∀ j, (d.setSize i v).flags j = 1 →
      (d.setSize i v).lba j = tfsDataStart + j ∧ (d.setSize i v).size j ≤ tfsSectorSize := by
  intro j hj
  have hw := d.words_setSize i j v
  have hv' : u32 v = v := u32_of_lt (by unfold tfsSectorSize at hv; omega)
  split_ifs at hw with hji
  · subst hji
    simp only [words, Prod.mk.injEq] at hw
    rw [hw.2.2] at hj
    exact ⟨hw.1.trans (hd j hj).1, by rw [hw.2.1, hv']; exact hv⟩
  · simp only [words, Prod.mk.injEq] at hw
    rw [hw.2.2] at hj
    rw [hw.1, hw.2.1]
    exact hd j hj

omit hs in
lemma TfsDirectory.flags_setSize (d : TfsDirectory) (i j : Fin 25) (v : Nat) :
    (d.setSize i v).flags j = d.flags j := by
  have hw := d.words_setSize i j v
  split_ifs at hw with hji
  · subst hji
    exact (congrArg (fun w => w.2.2) hw)
  · exact (congrArg (fun w => w.2.2) hw)

/-- The step from `s` to `t` opens nothing, creates and frees no slot, and moves no handle to
another slot. -/
structure Tfs.Frame (s t : Tfs) : Prop where
  volume : t.Volume
  flags : ∀ i, t.rootDirectory.flags i = s.rootDirectory.flags i
  handles : ∀ h, t.IsOpen h → s.IsOpen h ∧ (t.handles h).entryIdx = (s.handles h).entryIdx

omit hs in
lemma TfsTracked.Inv.of_frame (hg : g.Inv) {t : Tfs} (h : g.fs.Frame t) :
    TfsTracked.Inv { g with fs := t } := by
  refine ⟨h.volume, fun k hk => ?_, fun i j hi hj => ?_, hg.old⟩
  · obtain ⟨ho, he⟩ := h.handles k hk
    simp only [he, h.flags]
    exact hg.handles k ho
  · simp only [h.flags] at hi hj
    exact hg.distinct i j hi hj

lemma Tfs.Volume.frame_refl : s.Frame s :=
  ⟨hs, fun _ => rfl, fun _ h => ⟨h, rfl⟩⟩

lemma Tfs.Volume.frame_loadDirectory : s.Frame s.loadDirectory :=
  ⟨hs.loadDirectory, fun i => by rw [(hs.synced.loadDirectory hs.sane.ready).1],
    fun _ h => ⟨h, rfl⟩⟩

omit hs in
lemma Tfs.Frame.trans {s t u : Tfs} (h : s.Frame t) (h' : t.Frame u) : s.Frame u :=
  ⟨h'.volume, fun i => (h'.flags i).trans (h.flags i), fun k hk => by
    obtain ⟨ho, he⟩ := h'.handles k hk
    obtain ⟨ho', he'⟩ := h.handles k ho
    exact ⟨ho', he.trans he'⟩⟩

lemma Tfs.Volume.frame_setSize (i : Fin 25) {v : Nat}
    (hv : v ≤ tfsSectorSize) : s.Frame (s.updateDirectory (s.rootDirectory.setSize i v)) :=
  ⟨hs.updateDirectory (TfsDirectory.setSize_files hv hs.files),
    fun _ => TfsDirectory.flags_setSize _ _ _ _, fun _ h => ⟨h, rfl⟩⟩

lemma Tfs.Volume.frame_setName (i : Fin 25) {nm : CString}
    (hn : nm.length ≤ 11) : s.Frame (s.updateDirectory (s.rootDirectory.setName i nm)) := by
  have hw : ∀ j, (s.rootDirectory.setName i nm).flags j = s.rootDirectory.flags j ∧
      (s.rootDirectory.setName i nm).lba j = s.rootDirectory.lba j ∧
      (s.rootDirectory.setName i nm).size j = s.rootDirectory.size j := by
    intro j
    have := s.rootDirectory.words_setName i j hn
    simp only [TfsDirectory.words, Prod.mk.injEq] at this
    exact ⟨this.2.2, this.1, this.2.1⟩
  refine ⟨hs.updateDirectory fun j hj => ?_, fun j => (hw j).1, fun _ h => ⟨h, rfl⟩⟩
  rw [(hw j).1] at hj
  rw [(hw j).2.1, (hw j).2.2]
  exact hs.files j hj

lemma Tfs.Volume.frame_setHandle (ho : s.IsOpen h) {x : TfsHandle} (hp : x.pos < 4294967296)
    (hx : x.used = true → x.entryIdx = (s.handles h).entryIdx) : s.Frame (s.setHandle h x) := by
  refine ⟨⟨hs.sane.setHandle h hp, hs.synced, hs.files⟩, fun _ => rfl, fun k hk => ?_⟩
  by_cases hkh : k = h
  · subst hkh
    rw [Tfs.IsOpen, Tfs.handles_setHandle_same] at hk
    exact ⟨ho, by rw [Tfs.handles_setHandle_same]; exact hx hk.2⟩
  · rw [Tfs.IsOpen, Tfs.handles_setHandle_of_ne _ _ hkh] at hk
    exact ⟨hk, by rw [Tfs.handles_setHandle_of_ne _ _ hkh]⟩

lemma Tfs.Volume.frame_setPos (ho : s.IsOpen h) {p : Nat}
    (hp : p < 4294967296) : s.Frame (s.setHandle h { s.handles h with pos := p }) :=
  hs.frame_setHandle ho hp fun _ => rfl

lemma Tfs.Volume.frame_disk {disk : Disk} (hr : disk.Ready)
    (hv : disk.view = s.disk.view) : s.Frame { s with disk := disk } :=
  ⟨⟨⟨hr, hs.sane.pos⟩, by rw [Tfs.Synced]; exact hv ▸ hs.synced, hs.files⟩, fun _ => rfl,
    fun _ h => ⟨h, rfl⟩⟩

end

section

variable (hg : g.Inv)
include hg

lemma TfsTracked.Inv.lba_lt (ho : g.fs.IsOpen h) :
    g.fs.rootDirectory.lba (g.fs.handles h).entryIdx < 2147483648 := by
  rw [(hg.volume.files _ (hg.handles h ho).1).1]
  unfold tfsDataStart
  omega

/-! ### Operations through a handle -/

lemma tfsRead_frame (h n : Nat) : g.fs.Frame (tfsRead g.fs h n).1 := by
  by_cases ho : g.fs.IsOpen h
  · simp only [tfsRead, ho, not_true_eq_false, if_false]
    split_ifs with hn hr hp
    · exact hg.volume.frame_refl
    · exact hg.volume.frame_refl
    · have hsz : g.fs.rootDirectory.size (g.fs.handles h).entryIdx < 4294967296 :=
        Bytes.le32_lt _ _
      set size := min n (g.fs.rootDirectory.size (g.fs.handles h).entryIdx - (g.fs.handles h).pos)
      have h0 : ([] : List UInt8).length ≤ size := Nat.zero_le _
      obtain ⟨h1, h2, _⟩ := tfsReadLoop_bytes (g.fs.rootDirectory.lba (g.fs.handles h).entryIdx)
        (g.fs.handles h).pos size (by omega) size hg.volume.sane.ready Bytes.zero h0
        (Nat.sub_le _ _)
      have hf := hg.volume.frame_disk h1 h2
      exact hf.trans (hf.volume.frame_setPos ho (u32_lt _))
    · exact hg.volume.frame_refl
  · simp only [tfsRead, ho, not_false_eq_true, if_true]
    exact hg.volume.frame_refl

lemma tfsLseek_frame (h : Nat) (offset whence : Int) :
    g.fs.Frame (tfsLseek g.fs h offset whence).1 := by
  by_cases ho : g.fs.IsOpen h
  · simp only [tfsLseek, ho, not_true_eq_false, if_false]
    split_ifs <;> first
      | exact hg.volume.frame_refl
      | exact hg.volume.frame_setPos ho (toNat_i32_lt _)
  · simp only [tfsLseek, ho, not_false_eq_true, if_true]
    exact hg.volume.frame_refl

lemma tfsClose_frame (h : Nat) : g.fs.Frame (tfsClose g.fs h).1 := by
  by_cases ho : g.fs.IsOpen h
  · simp only [tfsClose, ho, not_true_eq_false, if_false]
    split_ifs
    · exact hg.volume.frame_setHandle ho (hg.volume.sane.pos h) fun _ => rfl
    · exact hg.volume.frame_setHandle ho (hg.volume.sane.pos h) fun _ => rfl
  · simp only [tfsClose, ho, not_false_eq_true, if_true]
    exact hg.volume.frame_refl

lemma tfsFtruncate_frame {h size : Nat}
    (hsize : g.fs.IsOpen h → size ≤ tfsSectorSize) : g.fs.Frame (tfsFtruncate g.fs h size).1 := by
  by_cases ho : g.fs.IsOpen h
  · simp only [tfsFtruncate, ho, not_true_eq_false, if_false]
    have hp : (if (g.fs.handles h).pos > size then size else (g.fs.handles h).pos) <
        4294967296 := by
      have := hg.volume.sane.pos h
      split_ifs <;> omega
    have hf := hg.volume.frame_setPos ho hp
    exact hf.trans (hf.volume.frame_setSize _ (hsize ho))
  · simp only [tfsFtruncate, ho, not_false_eq_true, if_true]
    exact hg.volume.frame_refl

/-- A write within the sector of the slot. -/
lemma tfsWrite_frame {buf : List UInt8}
    (hk : TfsKeepsFiles g (.write h buf)) : g.fs.Frame (tfsWrite g.fs h buf).1 := by
  by_cases ho : g.fs.IsOpen h
  swap
  · simp only [tfsWrite, ho, not_false_eq_true, if_true]
    exact hg.volume.frame_refl
  by_cases hb : buf.length = 0
  · simp only [tfsWrite, ho, hb, not_true_eq_false, if_true, if_false]
    exact hg.volume.frame_refl
  by_cases hw : tfsWritable (g.fs.handles h).flags
  swap
  · simp only [tfsWrite, ho, hb, hw, not_true_eq_false, not_false_eq_true, if_true, if_false]
    exact hg.volume.frame_refl
  have hfit := hk (by rintro rfl; exact hb rfl) ho hw
  obtain ⟨hready, _, _, hothers, w, hwl, hown, hdir⟩ :=
    tfsWrite_spec hg.volume.sane ho hb hw (hg.lba_lt ho)
  have hsane := tfsStep_sane g.fs (.write h buf) hg.volume.sane
  have hhandles : ∀ k, (tfsWrite g.fs h buf).1.IsOpen k → g.fs.IsOpen k ∧
      ((tfsWrite g.fs h buf).1.handles k).entryIdx = (g.fs.handles k).entryIdx := by
    intro k hk'
    by_cases hkh : k = h
    · subst hkh
      exact ⟨ho, by rw [hown]⟩
    · rw [Tfs.IsOpen, hothers k hkh] at hk'
      exact ⟨hk', by rw [hothers k hkh]⟩
  rcases hdir with ⟨hdir, hview⟩ | ⟨hdir, hview⟩
  · refine ⟨⟨hsane, ?_, ?_⟩, fun i => by rw [hdir], hhandles⟩
    · have hlba := (hg.volume.files _ (hg.handles h ho).1).1
      rw [Tfs.Synced, hdir, hview (by rw [hlba]; unfold tfsDataStart tfsDirLba; omega)]
      exact hg.volume.synced
    · rw [hdir]
      exact hg.volume.files
  · refine ⟨⟨hsane, ?_, ?_⟩, fun i => ?_, hhandles⟩
    · rw [Tfs.Synced, hview]
      exact Bytes.overlay_resize _
    · rw [hdir]
      refine TfsDirectory.setSize_files ?_ hg.volume.files
      unfold tfsSectorSize at hfit ⊢
      rw [u32_of_lt (by omega)]
      omega
    · rw [hdir]
      exact TfsDirectory.flags_setSize _ _ _ _

/-! ### Operations on paths -/

omit hg in
lemma tfsFindEntryByName_flags {nm : CString}
    (h : tfsFindEntryByName d nm = some i) : d.flags i = 1 := by
  have := List.find?_some h
  simp only [Bool.and_eq_true, beq_iff_eq] at this
  exact this.1

omit hg in
lemma findFreeSlot_flags (h : findFreeSlot d = some i) : d.flags i = 0 := by
  simpa using List.find?_some h

omit hg in
lemma tfsTruncate_frame (hs : s.Volume) (path : CString) {size : Nat}
    (hsize : size ≤ tfsSectorSize) : s.Frame (tfsTruncate s path size).1 := by
  rw [tfsTruncate]
  split
  · exact hs.frame_refl
  split
  · exact hs.frame_refl
  dsimp only
  split
  · exact hs.frame_loadDirectory
  · exact hs.frame_loadDirectory.trans (hs.loadDirectory.frame_setSize _ hsize)

omit hg in
lemma tfsRename_frame (hs : s.Volume) (oldPath newPath : CString) :
    s.Frame (tfsRename s oldPath newPath).1 := by
  rw [tfsRename]
  split
  · exact hs.frame_refl
  split
  · rename_i oldName newName _ hnew
    have hset := fun i => hs.frame_loadDirectory.trans
      (hs.loadDirectory.frame_setName i (length_of_normalizeTfsName hnew))
    dsimp only
    split
    · exact hs.frame_loadDirectory
    split
    · split
      · exact hs.frame_loadDirectory
      · exact hset _
    · exact hset _
  · exact hs.frame_refl

/-- Deleting a file on which no handle is open. -/
lemma tfsDelete_inv {path : CString} (hk : TfsKeepsFiles g (.delete path)) :
    TfsTracked.Inv { g with fs := (tfsDelete g.fs path).1 } := by
  rw [tfsDelete]
  split
  · exact hg
  split
  · exact hg
  rename_i nm hnm
  have hload := hg.of_frame hg.volume.frame_loadDirectory
  dsimp only
  split
  · exact hload
  rename_i i hi
  have hfree := hk nm i hnm hi
  have hw := fun j => TfsDirectory.words_clearFileEntry g.fs.loadDirectory.rootDirectory i j
  set d := clearFileEntry g.fs.loadDirectory.rootDirectory i
  have hflags : ∀ j, d.flags j = 1 → j ≠ i ∧ g.fs.loadDirectory.rootDirectory.words j = d.words j := by
    intro j hj
    have hwj := hw j
    split_ifs at hwj with hji
    · simp only [TfsDirectory.words, Prod.mk.injEq] at hwj
      omega
    · exact ⟨hji, hwj.symm⟩
  have hsame : ∀ j, d.flags j = 1 → g.fs.loadDirectory.rootDirectory.flags j = 1 := by
    intro j hj
    have := (hflags j hj).2
    simp only [TfsDirectory.words, Prod.mk.injEq] at this
    rw [this.2.2, hj]
  refine ⟨hload.volume.updateDirectory fun j hj => ?_, fun h ho => ?_, fun j k hj hk' => ?_, hg.old⟩
  · have hwj := (hflags j hj).2
    simp only [TfsDirectory.words, Prod.mk.injEq] at hwj
    rw [← hwj.1, ← hwj.2.1]
    exact hload.volume.files j (hsame j hj)
  · obtain ⟨hf, hid⟩ := hload.handles h ho
    refine ⟨?_, hid⟩
    have hne := hfree h ho
    have hwj := hw (g.fs.handles h).entryIdx
    rw [if_neg hne] at hwj
    simp only [TfsDirectory.words, Prod.mk.injEq] at hwj
    exact hwj.2.2.trans hf
  · exact hload.distinct j k (hsame j hj) (hsame k hk')

/-! ### Opening -/

lemma tfsOpenEntry_inv (hi : g.fs.rootDirectory.flags i = 1) (flags : UInt32) :
    TfsTracked.Inv ⟨(tfsOpenEntry g.fs i flags).1, g.fileId,
      match (tfsOpenEntry g.fs i flags).2 with
      | .ok h => update g.openedId h
          (g.fileId ((tfsOpenEntry g.fs i flags).1.handles h).entryIdx)
      | .error _ => g.openedId, g.created⟩ := by
  rw [tfsOpenEntry]
  set s := if flags &&& vfsOTrunc ≠ 0 then g.fs.updateDirectory (g.fs.rootDirectory.setSize i 0)
    else g.fs with hs
  have hframe : g.fs.Frame s := by
    rw [hs]
    split_ifs
    · exact hg.volume.frame_setSize i (Nat.zero_le _)
    · exact hg.volume.frame_refl
  have hg' := hg.of_frame hframe
  cases hh : tfsAllocHandle s with
  | none => exact hg'
  | some h =>
    refine ⟨⟨hframe.volume.sane.setHandle h (by simp), hframe.volume.synced,
      hframe.volume.files⟩, fun k hk => ?_, hg'.distinct, hg.old⟩
    by_cases hkh : k = h
    · subst hkh
      simp only [Tfs.handles_setHandle_same, update_self, and_true,
        Tfs.setHandle_rootDirectory]
      rw [hframe.flags, hi]
    · rw [Tfs.IsOpen, Tfs.handles_setHandle_of_ne _ _ hkh] at hk
      simp only [Tfs.handles_setHandle_of_ne _ _ hkh, update_of_ne hkh]
      exact hg'.handles k hk

/-- A new file in a free slot gets a number of its own. -/
lemma TfsTracked.Inv.create (hi : g.fs.rootDirectory.flags i = 0) {nm : CString}
    (hn : nm.length ≤ 11) :
    TfsTracked.Inv ⟨g.fs.updateDirectory (g.fs.rootDirectory.create i nm),
      update g.fileId i g.created, g.openedId, g.created + 1⟩ := by
  have hw := fun j => g.fs.rootDirectory.words_create i j hn
  set d := g.fs.rootDirectory.create i nm
  have hother : ∀ j, j ≠ i → d.lba j = g.fs.rootDirectory.lba j ∧
      d.size j = g.fs.rootDirectory.size j ∧ d.flags j = g.fs.rootDirectory.flags j := by
    intro j hji
    have hwj := hw j
    rw [if_neg hji] at hwj
    simpa only [TfsDirectory.words, Prod.mk.injEq] using hwj
  refine ⟨hg.volume.updateDirectory fun j hj => ?_, fun h ho => ?_, fun j k hj hk hjk => ?_,
    fun j => ?_⟩
  · by_cases hji : j = i
    · subst hji
      have hwj := hw j
      rw [if_pos rfl] at hwj
      simp only [TfsDirectory.words, Prod.mk.injEq] at hwj
      exact ⟨hwj.1, by rw [hwj.2.1]; exact Nat.zero_le _⟩
    · obtain ⟨h1, h2, h3⟩ := hother j hji
      rw [h1, h2]
      exact hg.volume.files j (h3 ▸ hj)
  · obtain ⟨hf, hid⟩ := hg.handles h ho
    have hne : (g.fs.handles h).entryIdx ≠ i := by
      intro he
      rw [he, hi] at hf
      cases hf
    exact ⟨(hother _ hne).2.2.trans hf, (update_of_ne hne _ _).trans hid⟩
  · simp only at hjk
    by_cases hji : j = i <;> by_cases hki : k = i
    · rw [hji, hki]
    · subst hji
      rw [update_self, update_of_ne hki] at hjk
      exact absurd hjk (hg.old k).ne'
    · subst hki
      rw [update_self, update_of_ne hji] at hjk
      exact absurd hjk (hg.old j).ne
    · rw [update_of_ne hji, update_of_ne hki] at hjk
      exact hg.distinct j k ((hother j hji).2.2 ▸ hj) ((hother k hki).2.2 ▸ hk) hjk
  · by_cases hji : j = i
    · subst hji
      simp
    · simp only [update_of_ne hji]
      exact Nat.lt_succ_of_lt (hg.old j)

lemma TfsTracked.Inv.succ : TfsTracked.Inv { g with created := g.created + 1 } :=
  ⟨hg.volume, hg.handles, hg.distinct, fun i => Nat.lt_succ_of_lt (hg.old i)⟩

lemma TfsTracked.Inv.noteOpen (path : CString) (flags : UInt32) : (g.noteOpen path flags).Inv := by
  have hload := hg.of_frame hg.volume.frame_loadDirectory
  rw [TfsTracked.noteOpen, tfsOpen, tfsOpenCreates]
  by_cases ha : !g.fs.ataDiskAvailable
  · simp only [ha, if_true]
    exact hg.succ
  simp only [ha, Bool.false_eq_true, if_false]
  cases hnm : normalizeTfsName path with
  | none => exact hg.succ
  | some nm =>
    simp only
    cases hf : tfsFindEntryByName g.fs.loadDirectory.rootDirectory nm with
    | some i => exact tfsOpenEntry_inv hload.succ (tfsFindEntryByName_flags hf) flags
    | none =>
      simp only
      by_cases hc : flags &&& vfsOCreat = 0
      · simp only [hc, if_true]
        exact hload.succ
      · simp only [hc, if_false]
        cases hslot : findFreeSlot g.fs.loadDirectory.rootDirectory with
        | none => exact hload.succ
        | some i =>
          have hnew := hload.create (findFreeSlot_flags hslot) (length_of_normalizeTfsName hnm)
          refine tfsOpenEntry_inv hnew ?_ flags
          have hw := g.fs.loadDirectory.rootDirectory.words_create i i
            (length_of_normalizeTfsName hnm)
          rw [if_pos rfl] at hw
          exact congrArg (fun w => w.2.2) hw

omit hg in
lemma tfsTrackedStep_inv (g : TfsTracked) (o : TfsOp) (hg : g.Inv) (hk : TfsKeepsFiles g o) :
    (tfsTrackedStep g o).1.Inv := by
  cases o with
  | openFile path flags => exact hg.noteOpen path flags
  | read h size => exact hg.of_frame (tfsRead_frame hg h size)
  | write h buf => exact hg.of_frame (tfsWrite_frame hg hk)
  | close h => exact hg.of_frame (tfsClose_frame hg h)
  | lseek h offset whence => exact hg.of_frame (tfsLseek_frame hg h offset whence)
  | ftruncate h size => exact hg.of_frame (tfsFtruncate_frame hg hk)
  | delete path => exact tfsDelete_inv hg hk
  | rename oldPath newPath => exact hg.of_frame (tfsRename_frame hg.volume oldPath newPath)
  | truncate path size => exact hg.of_frame (tfsTruncate_frame hg.volume path hk)

/-! ### Each operation keeps to its file -/

omit hg in
lemma Tfs.contents_congr {s t : Tfs} {j : Fin 25}
    (hw : t.rootDirectory.words j = s.rootDirectory.words j)
    (hb : ∀ k < s.rootDirectory.size j, flatByte t.disk.view (512 * s.rootDirectory.lba j + k) =
      flatByte s.disk.view (512 * s.rootDirectory.lba j + k)) : t.contents j = s.contents j := by
  simp only [TfsDirectory.words, Prod.mk.injEq] at hw
  rw [Tfs.contents, Tfs.contents, hw.1, hw.2.1]
  exact List.map_congr_left fun k hk => hb k (List.mem_range.mp hk)

omit hg in
lemma Tfs.contents_slice (s : Tfs) (i : Fin 25) (pos n : Nat) :
    ((s.contents i).drop pos).take n = (List.range (min n (s.rootDirectory.size i - pos))).map
      fun k => flatByte s.disk.view (512 * s.rootDirectory.lba i + pos + k) := by
  apply List.ext_getElem
  · simp [Tfs.contents]
  · intro k _ _
    simp [Tfs.contents, Nat.add_assoc]

lemma TfsTracked.Inv.sector_ne {i j : Fin 25} (hj : g.fs.rootDirectory.flags j = 1) (hij : j ≠ i)
    {k : Nat} (hk : k < g.fs.rootDirectory.size j) :
    (512 * g.fs.rootDirectory.lba j + k) / 512 ≠ tfsDirLba ∧
      (512 * g.fs.rootDirectory.lba j + k) / 512 ≠ tfsDataStart + i := by
  obtain ⟨hl, hs⟩ := hg.volume.files j hj
  have hne : (j : Nat) ≠ i := fun h => hij (Fin.ext h)
  rw [hl]
  unfold tfsSectorSize at hs
  unfold tfsDataStart tfsDirLba
  omega

lemma tfsWrite_others {buf : List UInt8} (hk : TfsKeepsFiles g (.write h buf)) {j : Fin 25}
    (hj : g.fs.rootDirectory.flags j = 1) (hne : g.fs.IsOpen h → j ≠ (g.fs.handles h).entryIdx) :
    (tfsWrite g.fs h buf).1.rootDirectory.words j = g.fs.rootDirectory.words j ∧
      (tfsWrite g.fs h buf).1.contents j = g.fs.contents j := by
  by_cases ho : g.fs.IsOpen h
  swap
  · simp only [tfsWrite, ho, not_false_eq_true, if_true, and_self]
  by_cases hb : buf.length = 0
  · simp only [tfsWrite, ho, hb, not_true_eq_false, if_true, if_false, and_self]
  by_cases hw : tfsWritable (g.fs.handles h).flags
  swap
  · simp only [tfsWrite, ho, hb, hw, not_true_eq_false, not_false_eq_true, if_true, if_false,
      and_self]
  have hfit := hk (by rintro rfl; exact hb rfl) ho hw
  obtain ⟨_, hbytes, hwords, _⟩ := tfsWrite_spec hg.volume.sane ho hb hw (hg.lba_lt ho)
  have hwj := hwords j (hne ho)
  refine ⟨hwj, Tfs.contents_congr hwj fun k hk' => ?_⟩
  obtain ⟨h1, h2⟩ := hg.sector_ne hj (hne ho) hk'
  rw [hbytes _ h1, if_neg]
  -- the bytes written stay in the sector of the handle's own slot
  have hlba := (hg.volume.files _ (hg.handles h ho).1).1
  rintro ⟨hlo, hhi⟩
  have hwr : tfsWritten (512 * g.fs.rootDirectory.lba (g.fs.handles h).entryIdx +
      (g.fs.handles h).pos) buf.length ≤ buf.length := min_le_left _ _
  rw [hlba] at hlo hhi hwr
  unfold tfsSectorSize at hfit
  omega

lemma tfsFtruncate_others {h size : Nat} {j : Fin 25} (hj : g.fs.rootDirectory.flags j = 1)
    (hne : g.fs.IsOpen h → j ≠ (g.fs.handles h).entryIdx) :
    (tfsFtruncate g.fs h size).1.rootDirectory.words j = g.fs.rootDirectory.words j ∧
      (tfsFtruncate g.fs h size).1.contents j = g.fs.contents j := by
  by_cases ho : g.fs.IsOpen h
  swap
  · simp only [tfsFtruncate, ho, not_false_eq_true, if_true, and_self]
  simp only [tfsFtruncate, ho, not_true_eq_false, if_false]
  have hwj := (g.fs.rootDirectory.words_setSize (g.fs.handles h).entryIdx j size).trans
    (if_neg (hne ho))
  refine ⟨hwj, Tfs.contents_congr hwj fun k hk => ?_⟩
  exact flatByte_updateDirectory hg.volume.sane.ready _ (hg.sector_ne hj (hne ho) hk).1

lemma tfsRead_others (h n : Nat) (j : Fin 25) :
    (tfsRead g.fs h n).1.rootDirectory.words j = g.fs.rootDirectory.words j ∧
      (tfsRead g.fs h n).1.contents j = g.fs.contents j := by
  by_cases hok : g.fs.IsOpen h ∧ n ≠ 0 ∧ tfsReadable (g.fs.handles h).flags
  · obtain ⟨ho, hn, hr⟩ := hok
    obtain ⟨_, hview, _⟩ := tfsRead_spec hg.volume.sane.ready ho hn hr (hg.lba_lt ho)
    have hdir : (tfsRead g.fs h n).1.rootDirectory = g.fs.rootDirectory := by
      rw [tfsRead]
      simp only [ho, hn, hr, not_true_eq_false, if_false]
      split_ifs <;> rfl
    exact ⟨by rw [hdir], Tfs.contents_congr (by rw [hdir]) fun k _ => by rw [hview]⟩
  · have hsame : (tfsRead g.fs h n).1 = g.fs := by
      rw [tfsRead]
      split_ifs with hopen hzero hreadable
      · rfl
      · exact absurd ⟨hopen, hzero, hreadable⟩ hok
      · rfl
      · rfl
    rw [hsame]
    exact ⟨rfl, rfl⟩

lemma tfsRead_own {h n : Nat} {bytes : List UInt8} (hb : (tfsRead g.fs h n).2 = .ok bytes) :
    ∃ i, g.fs.rootDirectory.flags i = 1 ∧ g.fileId i = g.openedId h ∧
      bytes = ((g.fs.contents i).drop (g.fs.handles h).pos).take n ∧
      ∀ j, g.fs.rootDirectory.flags j = 1 → g.fileId j ≠ g.openedId h →
        Disjoint (g.fs.extent i) (g.fs.extent j) := by
  have hok : g.fs.IsOpen h ∧ n ≠ 0 ∧ tfsReadable (g.fs.handles h).flags := by
    rw [tfsRead] at hb
    split_ifs at hb with h1 h2 h3
    all_goals exact ⟨h1, h2, h3⟩
  obtain ⟨ho, hn, hr⟩ := hok
  obtain ⟨hf, hid⟩ := hg.handles h ho
  refine ⟨(g.fs.handles h).entryIdx, hf, hid, ?_, fun j hj hne => ?_⟩
  · have hspec := (tfsRead_spec hg.volume.sane.ready ho hn hr (hg.lba_lt ho)).2.2
    rw [hspec, Except.ok.injEq] at hb
    rw [← hb, Tfs.contents_slice]
  · have hij : j ≠ (g.fs.handles h).entryIdx := by
      rintro rfl
      exact hne hid
    rw [Set.disjoint_left]
    rintro a ⟨hlo, hhi⟩ ⟨hlo', hhi'⟩
    obtain ⟨hl, hs⟩ := hg.volume.files _ hf
    obtain ⟨hl', hs'⟩ := hg.volume.files j hj
    have hne' : (j : Nat) ≠ (g.fs.handles h).entryIdx := fun h => hij (Fin.ext h)
    unfold tfsSectorSize at hs hs'
    omega

/-- In a good state every call stays in its file. -/
theorem TfsTracked.Inv.staysInFile {o : TfsOp} (ho : o.handle = some h)
    (hk : TfsKeepsFiles g o) : g.StaysInFile o h := by
  have hother : ∀ j, g.fileId j ≠ g.openedId h → g.fs.IsOpen h →
      j ≠ (g.fs.handles h).entryIdx := by
    rintro j hj hopen rfl
    exact hj (hg.handles h hopen).2
  cases o with
  | read h' n =>
    cases ho
    refine ⟨fun j _ _ => tfsRead_others hg h n j, fun m bytes hm hb => ?_⟩
    cases hm
    exact tfsRead_own hg (by simpa [tfsStep] using hb)
  | write h' buf =>
    cases ho
    exact ⟨fun j hj hne => tfsWrite_others hg hk hj (hother j hne), fun _ _ hm => by cases hm⟩
  | ftruncate h' size =>
    cases ho
    exact ⟨fun j hj hne => tfsFtruncate_others hg hj (hother j hne), fun _ _ hm => by cases hm⟩
  | close h' =>
    cases ho
    refine ⟨fun j _ _ => ?_, fun _ _ hm => by cases hm⟩
    simp only [tfsStep, tfsClose]
    split_ifs <;> exact ⟨rfl, rfl⟩
  | lseek h' offset whence =>
    cases ho
    refine ⟨fun j _ _ => ?_, fun _ _ hm => by cases hm⟩
    simp only [tfsStep, tfsLseek]
    split_ifs <;> exact ⟨rfl, rfl⟩
  | openFile | delete | rename | truncate => cases ho

end

/-- A volume on which no handle is open, with its files numbered by slot. -/
def TfsTracked.start (s : Tfs) : TfsTracked := ⟨s, fun i => i, fun _ => 0, 25⟩

lemma TfsTracked.inv_start (hs : s.Volume) (hclosed : ∀ h, ¬ s.IsOpen h) :
    (TfsTracked.start s).Inv :=
  ⟨hs, fun h ho => absurd ho (hclosed h), fun _ _ _ _ h => Fin.ext h, fun i => i.isLt⟩

/-- In every run that deletes files only while no handle on them is open and keeps every file
within the sector of its slot, each operation through a handle keeps to the file on which the
handle was opened. -/
theorem tfsHandle_staysInFile {s : Tfs} (hs : s.Volume) (hclosed : ∀ h, ¬ s.IsOpen h)
    (ops : List TfsOp) {o : TfsOp} {h : Nat} (ho : o.handle = some h)
    (hr : Machine.Runs TfsKeepsFiles tfsTrackedStep (TfsTracked.start s) (ops ++ [o])) :
    (Machine.run tfsTrackedStep (TfsTracked.start s) ops).StaysInFile o h := by
  rw [Machine.runs_append] at hr
  have hg := Machine.run_invariant tfsTrackedStep_inv (TfsTracked.inv_start hs hclosed) hr.1
  exact hg.staysInFile ho hr.2.1

lemma Tfs.volume_blank : (Tfs.boot fun _ => Bytes.zero).Volume := by
  refine ⟨Tfs.sane_boot _, ?_, ?_⟩
  · rw [Tfs.Synced, Tfs.boot, Disk.view_boot]
    apply Bytes.ext_get
    intro k hk
    rw [Bytes.overlay, Bytes.get_ofFun _ hk]
    split_ifs <;> simp
  · have h : ∀ i, (Tfs.boot fun _ => Bytes.zero).rootDirectory.flags i ≠ 1 := by decide
    exact fun i hi => absurd hi (h i)

/-- Two files are open and a missing one is deleted. -/
theorem tfsHandle_staysInFile_two_files :
    (Machine.run tfsTrackedStep (TfsTracked.start (Tfs.boot fun _ => Bytes.zero))
      [.openFile [47, 97] 7, .openFile [47, 98] 7, .write 1 [120], .delete [47, 99]]).StaysInFile
        (.write 0 [121]) 0 := by
  refine tfsHandle_staysInFile Tfs.volume_blank (fun h ho => ?_) _ rfl
    ⟨trivial, trivial, fun _ _ _ => ?_, fun nm i hnm hi => ?_, fun _ _ _ => ?_, trivial⟩
  · exact absurd ho.2 (by simp [Tfs.boot])
  · decide
  · cases hnm
    exact absurd (Option.isSome_of_eq_some hi) (by decide)
  · decide

/-- The file `a` is deleted while handle 0 is open on it and `b` gets its slot: handle 0 then
reads the byte of `b` and writes into `b`. -/
theorem tfsHandle_reaches_later_file :
    ¬ (Machine.run tfsTrackedStep (TfsTracked.start (Tfs.boot fun _ => Bytes.zero))
        [.openFile [47, 97] 7, .delete [47, 97], .openFile [47, 98] 7, .write 1 [120]]).StaysInFile
          (.read 0 1) 0 ∧
      ¬ (Machine.run tfsTrackedStep (TfsTracked.start (Tfs.boot fun _ => Bytes.zero))
        [.openFile [47, 97] 7, .delete [47, 97], .openFile [47, 98] 7, .write 1 [120]]).StaysInFile
          (.write 0 [121]) 0 := by
  constructor
  · intro h
    obtain ⟨i, hi, hid, -⟩ := h.reads 1 [120] rfl (by decide)
    revert i
    decide
  · intro h
    exact absurd (h.others 0 (by decide) (by decide)).2 (by decide)

end NeuroSpark
