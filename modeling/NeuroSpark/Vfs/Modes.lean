import NeuroSpark.Disk.Coherence
import NeuroSpark.Ext2.Frame
import NeuroSpark.Tfs.Handles
import NeuroSpark.Vfs.Backends

/-!
# Open modes

What a program can do through one descriptor that it opened with given flags. Each backend tests the
flags of its own handle, which `fcntl` does not change. Reading is refused without `VFS_O_RDONLY` in
every backend. Writing is refused without `VFS_O_WRONLY` by the RAM disk and by ext2; TFS tests
`(flags & VFS_O_RDWR) == 0`, which lets a handle with `VFS_O_RDONLY` write, and no backend tests
anything in `ftruncate`.
-/

namespace NeuroSpark

open Word

/-! ### Handles keep their flags -/

/-- At most the position of handle `h` changes. -/
def MovesOnly {H : Type} (setPos : H → Nat → H) (before after : Nat → H) (h : Nat) : Prop :=
  after = before ∨ ∃ p, after = Function.update before h (setPos (before h) p)

lemma MovesOnly.iff {H : Type} {setPos : H → Nat → H} {before after : Nat → H} {h : Nat}
    (hm : MovesOnly setPos before after h) {P : H → Prop} (hP : ∀ x p, P (setPos x p) ↔ P x) :
    P (after h) ↔ P (before h) := by
  rcases hm with rfl | ⟨p, rfl⟩
  · exact Iff.rfl
  · rw [Function.update_self]
    exact hP _ _

def TfsHandle.setPos (x : TfsHandle) (p : Nat) : TfsHandle := { x with pos := p }
def RamdiskHandle.setPos (x : RamdiskHandle) (p : Nat) : RamdiskHandle := { x with pos := p }
def Ext2Handle.setPos (x : Ext2Handle) (p : Nat) : Ext2Handle := { x with pos := p }

def Tfs.Moves (s t : Tfs) (h : Nat) : Prop := MovesOnly TfsHandle.setPos s.handles t.handles h

def Ramdisk.Moves (s t : Ramdisk) (h : Nat) : Prop :=
  MovesOnly RamdiskHandle.setPos s.handles t.handles h

def Ext2.Moves (s t : Ext2) (h : Nat) : Prop := MovesOnly Ext2Handle.setPos s.handles t.handles h

lemma tfsRead_moves (s : Tfs) (h n : Nat) : s.Moves (tfsRead s h n).1 h := by
  rw [tfsRead]
  split
  · exact Or.inl rfl
  · split
    · exact Or.inl rfl
    · split
      · exact Or.inl rfl
      · dsimp only
        split
        · exact Or.inl rfl
        · exact Or.inr ⟨_, rfl⟩

lemma tfsWrite_moves (s : Tfs) (h : Nat) (buf : List UInt8) : s.Moves (tfsWrite s h buf).1 h := by
  rw [tfsWrite]
  split
  · exact Or.inl rfl
  · split
    · exact Or.inl rfl
    · split
      · exact Or.inl rfl
      · dsimp only
        split <;> exact Or.inr ⟨_, rfl⟩

lemma tfsLseek_moves (s : Tfs) (h : Nat) (offset whence : Int) :
    s.Moves (tfsLseek s h offset whence).1 h := by
  rw [tfsLseek]
  split
  · exact Or.inl rfl
  · dsimp only
    generalize (if whence = vfsSeekSet then (0 : Int) else if whence = vfsSeekCur then
      i32 (s.handles h).pos else i32 (s.rootDirectory.size (s.handles h).entryIdx)) = base
    split_ifs
    · exact Or.inl rfl
    · exact Or.inl rfl
    · exact Or.inr ⟨_, rfl⟩

lemma tfsFtruncate_moves (s : Tfs) (h size : Nat) : s.Moves (tfsFtruncate s h size).1 h := by
  rw [tfsFtruncate]
  split
  · exact Or.inl rfl
  · exact Or.inr ⟨_, rfl⟩

lemma ramdiskRead_moves (s : Ramdisk) (h n : Nat) : s.Moves (ramdiskRead s h n).1 h := by
  rw [ramdiskRead]
  split
  · exact Or.inl rfl
  · split
    · exact Or.inl rfl
    · dsimp only
      split
      · exact Or.inl rfl
      · exact Or.inr ⟨_, rfl⟩

lemma ramdiskWrite_moves (s : Ramdisk) (h : Nat) (buf : List UInt8) :
    s.Moves (ramdiskWrite s h buf).1 h := by
  rw [ramdiskWrite]
  split
  · exact Or.inl rfl
  · split
    · exact Or.inl rfl
    · dsimp only
      split
      · exact Or.inl rfl
      · exact Or.inr ⟨_, rfl⟩

lemma ramdiskLseek_moves (s : Ramdisk) (h : Nat) (offset whence : Int) :
    s.Moves (ramdiskLseek s h offset whence).1 h := by
  rw [ramdiskLseek]
  split
  · exact Or.inl rfl
  · split
    · exact Or.inl rfl
    · exact Or.inr ⟨_, rfl⟩

lemma ramdiskFtruncate_moves (s : Ramdisk) (h size : Nat) :
    s.Moves (ramdiskFtruncate s h size).1 h := by
  rw [ramdiskFtruncate]
  split
  · exact Or.inl rfl
  · exact Or.inr ⟨_, rfl⟩

lemma ext2Read_moves (s : Ext2) (h n : Nat) : s.Moves (ext2Read s h n).1 h := by
  rw [ext2Read]
  split
  · exact Or.inl rfl
  · dsimp only
    split
    · exact Or.inl rfl
    · split
      · exact Or.inl rfl
      · split
        · exact Or.inl rfl
        · split
          · exact Or.inl rfl
          · exact Or.inr ⟨_, rfl⟩

lemma ext2Write_moves (s : Ext2) (h : Nat) (buf : List UInt8) :
    s.Moves (ext2Write s h buf).1 h := by
  rw [ext2Write]
  split
  · exact Or.inl rfl
  · dsimp only
    split
    · exact Or.inl rfl
    · split
      · exact Or.inl rfl
      · rename_i inode _
        have hloop :=
          Ext2.handles_eq (ext2WriteLoop_frame (s.handles h).pos buf buf.length s inode 0)
        generalize ext2WriteLoop (s.handles h).pos buf buf.length s inode 0 = r at hloop ⊢
        obtain ⟨t, inode', total⟩ := r
        cases total with
        | none => exact Or.inl hloop
        | some total =>
          have hmoved : ∀ i, (writeInode (t.setHandle h
              { s.handles h with pos := u32 ((s.handles h).pos + total) })
              (s.handles h).inodeNum i).1.handles =
              Function.update s.handles h
                { s.handles h with pos := u32 ((s.handles h).pos + total) } := by
            intro i
            rw [Ext2.handles_eq (writeInode_frame _ _ _)]
            simp only [Ext2.setHandle]
            rw [show t.handles = s.handles from hloop]
          dsimp only
          split_ifs <;> exact Or.inr ⟨_, hmoved _⟩

lemma ext2Lseek_moves (s : Ext2) (h : Nat) (offset whence : Int) :
    s.Moves (ext2Lseek s h offset whence).1 h := by
  rw [ext2Lseek]
  split
  · exact Or.inl rfl
  · dsimp only
    split
    · exact Or.inl rfl
    · rename_i inode _
      generalize (if whence = vfsSeekSet then (0 : Int) else if whence = vfsSeekCur then
        i32 (s.handles h).pos else i32 inode.size) = base
      split_ifs
      · exact Or.inl rfl
      · exact Or.inl rfl
      · exact Or.inr ⟨_, rfl⟩

lemma ext2Ftruncate_moves (s : Ext2) (h size : Nat) : s.Moves (ext2Ftruncate s h size).1 h := by
  have htrunc := Ext2.handles_eq (ext2TruncateInode_frame s (s.handles h).inodeNum size)
  rw [ext2Ftruncate]
  split
  · exact Or.inl rfl
  · dsimp only
    split
    · exact Or.inl htrunc
    · refine Or.inr ⟨if (s.handles h).pos > size then size else (s.handles h).pos, ?_⟩
      simp only [Ext2.setHandle, htrunc]
      rfl

/-! ### Files -/

/-- The handle is open with these flags. -/
def BackendState.OpenWith (s : BackendState) (flags : UInt32) : Backend → Nat → Prop
  | .tfs, h => s.tfs.IsOpen h ∧ (s.tfs.handles h).flags = flags
  | .ramdisk, h => s.ramdisk.IsOpen h ∧ (s.ramdisk.handles h).flags = flags
  | .ext2, h => s.ext2.IsOpen h ∧ (s.ext2.handles h).flags = flags

/-- The files of all backends have the same size and the same contents: those of TFS through the
page cache, those of ext2 as every block of the mounted image. -/
structure BackendState.SameFiles (s t : BackendState) : Prop where
  tfsDirectory : t.tfs.rootDirectory = s.tfs.rootDirectory
  tfsContents : ∀ i, t.tfs.contents i = s.tfs.contents i
  ramdiskFiles : t.ramdisk.files = s.ramdisk.files
  ext2Mount : t.ext2Mount = s.ext2Mount
  ext2Blocks : ∀ b < s.ext2Mount.totalBlocks, t.ext2.blockAt b = s.ext2.blockAt b

/-- The device does not fail, the cache is coherent, and no sector of the mounted ext2 image waits
in the cache to be written back. -/
structure BackendState.Settled (s : BackendState) : Prop where
  ready : s.tfs.disk.Ready
  clean : ∀ b < s.ext2Mount.totalBlocks, ∀ lba,
    lba = blockToLba s.ext2Mount b ∨ lba = u32 (blockToLba s.ext2Mount b + 1) →
      ∀ i, s.tfs.disk.Holds i lba → (s.tfs.disk.line i).dirty = false

namespace BackendState

variable {s t u : BackendState}

lemma SameFiles.refl (s : BackendState) : s.SameFiles s :=
  ⟨rfl, fun _ => rfl, rfl, rfl, fun _ _ => rfl⟩

lemma SameFiles.trans (h : s.SameFiles t) (h' : t.SameFiles u) : s.SameFiles u where
  tfsDirectory := h'.tfsDirectory.trans h.tfsDirectory
  tfsContents i := (h'.tfsContents i).trans (h.tfsContents i)
  ramdiskFiles := h'.ramdiskFiles.trans h.ramdiskFiles
  ext2Mount := h'.ext2Mount.trans h.ext2Mount
  ext2Blocks b hb := (h'.ext2Blocks b (by rw [h.ext2Mount]; exact hb)).trans (h.ext2Blocks b hb)

lemma Settled.of_handles (hs : s.Settled) (hd : t.tfs.disk = s.tfs.disk)
    (hdir : t.tfs.rootDirectory = s.tfs.rootDirectory) (hr : t.ramdisk.files = s.ramdisk.files)
    (hm : t.ext2Mount = s.ext2Mount) : t.Settled ∧ s.SameFiles t := by
  refine ⟨⟨by rw [hd]; exact hs.ready, by rw [hm, hd]; exact hs.clean⟩, hdir, fun i => ?_, hr, hm,
    fun b _ => ?_⟩
  · simp only [Tfs.contents, hd, hdir]
  · simp only [ext2, Ext2.blockAt, hd, hm]

lemma Settled.of_disk (hs : s.Settled) (hready : t.tfs.disk.Ready)
    (hview : t.tfs.disk.view = s.tfs.disk.view) (hawaits : s.tfs.disk.Awaits t.tfs.disk)
    (hdir : t.tfs.rootDirectory = s.tfs.rootDirectory) (hr : t.ramdisk.files = s.ramdisk.files)
    (hm : t.ext2Mount = s.ext2Mount) : t.Settled ∧ s.SameFiles t := by
  have hclean : ∀ b < s.ext2Mount.totalBlocks, ∀ lba,
      lba = blockToLba s.ext2Mount b ∨ lba = u32 (blockToLba s.ext2Mount b + 1) →
        ∀ i, t.tfs.disk.Holds i lba → (t.tfs.disk.line i).dirty = false := by
    intro b hb lba hlba i hi
    by_contra hd
    rw [Bool.not_eq_false] at hd
    obtain ⟨hsi, hsd⟩ := hawaits i lba hi hd
    exact Bool.false_ne_true ((hs.clean b hb lba hlba i hsi).symm.trans hsd)
  -- on the sectors of the image the device shows what the cache does, before and after
  have hsect : ∀ b < s.ext2Mount.totalBlocks, ∀ lba,
      lba = blockToLba s.ext2Mount b ∨ lba = u32 (blockToLba s.ext2Mount b + 1) →
        t.tfs.disk.dev.sectors lba = s.tfs.disk.dev.sectors lba := by
    intro b hb lba hlba
    rw [hready.sectors_eq_view (hclean b hb lba hlba),
      hs.ready.sectors_eq_view (hs.clean b hb lba hlba), hview]
  refine ⟨⟨hready, by rw [hm]; exact hclean⟩, hdir, fun i => ?_, hr, hm, fun b hb => ?_⟩
  · simp only [Tfs.contents, hview, hdir]
  · simp only [ext2, Ext2.blockAt, hm]
    rw [hsect b hb _ (Or.inl rfl), hsect b hb _ (Or.inr rfl)]

end BackendState

variable {flags : UInt32}

lemma tfsReadLoop_quiet (lba₀ pos size fuel : Nat) {disk : Disk} (hd : disk.Ready) (sector : Sector)
    (acc : List UInt8) :
    (tfsReadLoop lba₀ pos size fuel disk sector acc).1.Ready ∧
      (tfsReadLoop lba₀ pos size fuel disk sector acc).1.view = disk.view ∧
      disk.Awaits (tfsReadLoop lba₀ pos size fuel disk sector acc).1 := by
  induction fuel generalizing disk sector acc with
  | zero => exact ⟨hd, rfl, fun _ _ hi hdirty => ⟨hi, hdirty⟩⟩
  | succ fuel ih =>
    rw [tfsReadLoop]
    split
    · have hread := diskReadSector_spec hd (u32 (lba₀ + u32 (pos + acc.length) / tfsSectorSize)) sector
      have hwaits := diskReadSector_awaits disk (u32 (lba₀ + u32 (pos + acc.length) / tfsSectorSize))
        sector
      obtain ⟨h₁, h₂, h₃⟩ := ih hread.1 (diskReadSector disk
        (u32 (lba₀ + u32 (pos + acc.length) / tfsSectorSize)) sector).2 _
      exact ⟨h₁, h₂.trans hread.2.1, hwaits.trans h₃⟩
    · exact ⟨hd, rfl, fun _ _ hi hdirty => ⟨hi, hdirty⟩⟩

lemma tfsRead_settled {s : BackendState} (hs : s.Settled) (h n : Nat) :
    (s.onTfs (tfsRead s.tfs h n)).1.Settled ∧ s.SameFiles (s.onTfs (tfsRead s.tfs h n)).1 := by
  rw [tfsRead]
  split
  · exact ⟨hs, .refl s⟩
  · split
    · exact ⟨hs, .refl s⟩
    · split
      · exact ⟨hs, .refl s⟩
      · dsimp only
        split
        · exact ⟨hs, .refl s⟩
        · obtain ⟨h₁, h₂, h₃⟩ := tfsReadLoop_quiet (s.tfs.rootDirectory.lba (s.tfs.handles h).entryIdx)
            (s.tfs.handles h).pos
            (min n (s.tfs.rootDirectory.size (s.tfs.handles h).entryIdx - (s.tfs.handles h).pos))
            (min n (s.tfs.rootDirectory.size (s.tfs.handles h).entryIdx - (s.tfs.handles h).pos))
            hs.ready Bytes.zero []
          exact hs.of_disk h₁ h₂ h₃ rfl rfl rfl

lemma and_rdwr_ne_of_wronly (h : flags &&& vfsOWronly = 0) : flags &&& vfsORdwr ≠ vfsORdwr := by
  intro hrw
  have heq : flags &&& vfsOWronly = flags &&& vfsORdwr &&& vfsOWronly := by
    rw [UInt32.and_assoc]
    rfl
  rw [heq, hrw] at h
  exact absurd h (by decide)

lemma and_rdwr_ne_of_rdonly (h : flags &&& vfsORdonly = 0) : flags &&& vfsORdwr ≠ vfsORdwr := by
  intro hrw
  have heq : flags &&& vfsORdonly = flags &&& vfsORdwr &&& vfsORdonly := by
    rw [UInt32.and_assoc]
    rfl
  rw [heq, hrw] at h
  exact absurd h (by decide)

lemma and_rdwr_eq_zero (hr : flags &&& vfsORdonly = 0)
    (hw : flags &&& vfsOWronly = 0) : flags &&& vfsORdwr = 0 := by
  have hr' := congrArg UInt32.toNat hr
  have hw' := congrArg UInt32.toNat hw
  rw [UInt32.toNat_and] at hr' hw'
  apply UInt32.toNat_inj.mp
  rw [vfsORdwr, UInt32.toNat_and, UInt32.toNat_or, Nat.and_or_distrib_left, hr', hw']
  rfl

/-! ### One descriptor -/

inductive HandleOp where
  | read (size : Nat)
  | write (buf : List UInt8)
  | lseek (offset whence : Int)
  | ftruncate (size : Nat)
  | fcntl (cmd : Int) (arg : UInt32)

inductive HandleAnswer where
  | data (r : Except VfsError (List UInt8))
  | result (r : VfsResult)

/-- One call through descriptor `fd` of a task. -/
def handleStep (task fd : Int) (s : Vfs Backend BackendState) :
    HandleOp → Vfs Backend BackendState × HandleAnswer
  | .read size =>
    ((vfsRead backendOps s task fd size).1, .data (vfsRead backendOps s task fd size).2)
  | .write buf =>
    ((vfsWrite backendOps s task fd buf).1, .result (vfsWrite backendOps s task fd buf).2)
  | .lseek offset whence =>
    ((vfsLseek backendOps s task fd offset whence).1,
      .result (vfsLseek backendOps s task fd offset whence).2)
  | .ftruncate size =>
    ((vfsFtruncate backendOps s task fd size).1, .result (vfsFtruncate backendOps s task fd size).2)
  | .fcntl cmd arg =>
    ((vfsFcntl s task fd cmd arg).1, .result (vfsFcntl s task fd cmd arg).2)

/-- The descriptor stands for handle `h` of backend `b`, which is open with these flags. -/
structure Vfs.Serves (s : Vfs Backend BackendState) (task fd : Int) (b : Backend) (h : Nat)
    (flags : UInt32) : Prop where
  entry : ∃ g, openGlobalFd s (taskFdToGlobal s (currentTaskId task) fd) = some (g, .file b) ∧
    (s.fdTable g).backendHandle = some h
  openWith : s.files.OpenWith flags b h

section

variable {s : Vfs Backend BackendState} {task fd : Int} {b : Backend} {h : Nat} {flags : UInt32}

section

variable (hs : s.Serves task fd b h flags)
include hs

lemma Vfs.Serves.read (n : Nat) :
    vfsRead backendOps s task fd n = ({ s with files := ((backendOps b).read s.files h n).1 },
      ((backendOps b).read s.files h n).2) := by
  obtain ⟨g, hg, hh⟩ := hs.entry
  simp only [vfsRead, hg, hh]

lemma Vfs.Serves.write (buf : List UInt8) :
    vfsWrite backendOps s task fd buf = ({ s with files := ((backendOps b).write s.files h buf).1 },
      ((backendOps b).write s.files h buf).2) := by
  obtain ⟨g, hg, hh⟩ := hs.entry
  simp only [vfsWrite, hg, hh]

lemma Vfs.Serves.lseek (offset whence : Int) : vfsLseek backendOps s task fd offset whence =
      ({ s with files := ((backendOps b).lseek s.files h offset whence).1 },
        ((backendOps b).lseek s.files h offset whence).2) := by
  obtain ⟨g, hg, hh⟩ := hs.entry
  simp only [vfsLseek, hg, hh]

lemma Vfs.Serves.ftruncate (n : Nat) : vfsFtruncate backendOps s task fd n =
      ({ s with files := ((backendOps b).ftruncate s.files h n).1 },
        ((backendOps b).ftruncate s.files h n).2) := by
  obtain ⟨g, hg, hh⟩ := hs.entry
  simp only [vfsFtruncate, hg, hh]

lemma Vfs.Serves.setFiles {f : BackendState} (hf : f.OpenWith flags b h) :
    ({ s with files := f } : Vfs Backend BackendState).Serves task fd b h flags :=
  ⟨hs.entry, hf⟩

omit hs in
lemma BackendState.OpenWith.of_moves {f f' : BackendState} (hf : f.OpenWith flags b h)
    (htfs : b = .tfs → f.tfs.Moves f'.tfs h) (hram : b = .ramdisk → f.ramdisk.Moves f'.ramdisk h)
    (hext : b = .ext2 → f.ext2.Moves f'.ext2 h) : f'.OpenWith flags b h := by
  cases b with
  | tfs =>
    have hiff := (htfs rfl).iff (P := fun x => x.used = true ∧ x.flags = flags) fun _ _ => Iff.rfl
    obtain ⟨hu, hfl⟩ := hiff.mpr ⟨hf.1.2, hf.2⟩
    exact ⟨⟨hf.1.1, hu⟩, hfl⟩
  | ramdisk =>
    have hiff := (hram rfl).iff (P := fun x => x.used = true ∧ x.flags = flags) fun _ _ => Iff.rfl
    obtain ⟨hu, hfl⟩ := hiff.mpr ⟨hf.1.2, hf.2⟩
    exact ⟨⟨hf.1.1, hu⟩, hfl⟩
  | ext2 =>
    have hiff := (hext rfl).iff (P := fun x => x.used = true ∧ x.flags = flags) fun _ _ => Iff.rfl
    obtain ⟨hu, hfl⟩ := hiff.mpr ⟨hf.1.2, hf.2⟩
    exact ⟨⟨hf.1.1, hu⟩, hfl⟩

lemma Vfs.Serves.setFlags (g : Fin 512) (arg : UInt32) :
    (s.setFd g { s.fdTable g with flags := arg }).Serves task fd b h flags := by
  have hfd : ∀ g', Function.update s.fdTable g { s.fdTable g with flags := arg } g' =
      { s.fdTable g' with flags := if g' = g then arg else (s.fdTable g').flags } := by
    intro g'
    by_cases hg : g' = g
    · subst hg
      simp
    · simp [hg]
  have hglobal : ∀ gfd, openGlobalFd (s.setFd g { s.fdTable g with flags := arg }) gfd =
      openGlobalFd s gfd := by
    intro gfd
    simp only [openGlobalFd, Vfs.setFd, hfd]
  obtain ⟨⟨g', hg', hh⟩, hopen⟩ := hs
  refine ⟨⟨g', (hglobal _).trans hg', ?_⟩, hopen⟩
  simpa only [Vfs.setFd, hfd] using hh

lemma Vfs.Serves.fcntl (cmd : Int) (arg : UInt32) :
    (vfsFcntl s task fd cmd arg).1.Serves task fd b h flags ∧
      (vfsFcntl s task fd cmd arg).1.files = s.files := by
  rw [vfsFcntl]
  dsimp only
  split
  · split
    · exact ⟨hs, rfl⟩
    · split
      · exact ⟨hs, rfl⟩
      · split
        · exact ⟨hs.setFlags _ arg, rfl⟩
        · exact ⟨hs, rfl⟩
  · exact ⟨hs, rfl⟩

lemma handleStep_serves (o : HandleOp) : (handleStep task fd s o).1.Serves task fd b h flags := by
  cases o with
  | read n =>
    simp only [handleStep, hs.read]
    refine hs.setFiles (hs.openWith.of_moves ?_ ?_ ?_) <;> rintro rfl
    · exact tfsRead_moves _ h n
    · exact ramdiskRead_moves _ h n
    · exact ext2Read_moves _ h n
  | write buf =>
    simp only [handleStep, hs.write]
    refine hs.setFiles (hs.openWith.of_moves ?_ ?_ ?_) <;> rintro rfl
    · exact tfsWrite_moves _ h buf
    · exact ramdiskWrite_moves _ h buf
    · exact ext2Write_moves _ h buf
  | lseek offset whence =>
    simp only [handleStep, hs.lseek]
    refine hs.setFiles (hs.openWith.of_moves ?_ ?_ ?_) <;> rintro rfl
    · exact tfsLseek_moves _ h offset whence
    · exact ramdiskLseek_moves _ h offset whence
    · exact ext2Lseek_moves _ h offset whence
  | ftruncate n =>
    simp only [handleStep, hs.ftruncate]
    refine hs.setFiles (hs.openWith.of_moves ?_ ?_ ?_) <;> rintro rfl
    · exact tfsFtruncate_moves _ h n
    · exact ramdiskFtruncate_moves _ h n
    · exact ext2Ftruncate_moves _ h n
  | fcntl cmd arg => exact (hs.fcntl cmd arg).1

end

variable {f : BackendState}

lemma read_refused (hf : f.OpenWith flags b h) (hr : flags &&& vfsORdonly = 0)
    (n : Nat) : ∃ e, ((backendOps b).read f h n).2 = .error e := by
  have hrw := and_rdwr_ne_of_rdonly hr
  cases b with
  | tfs =>
    have hno : ¬ tfsReadable flags := not_not.mpr ⟨hr, hrw⟩
    simp only [backendOps, tfsBackendOps, BackendState.onTfs, tfsRead]
    rw [if_neg (not_not.mpr hf.1), hf.2, if_pos hno]
    split <;> exact ⟨_, rfl⟩
  | ramdisk =>
    have hno : ¬ ramdiskReadable flags := not_not.mpr ⟨hr, hrw⟩
    simp only [backendOps, ramdiskBackendOps, BackendState.onRamdisk, ramdiskRead]
    rw [if_neg (not_not.mpr hf.1), hf.2, if_pos hno]
    exact ⟨_, rfl⟩
  | ext2 =>
    have hno : ¬ ext2Readable flags := not_not.mpr ⟨hr, hrw⟩
    simp only [backendOps, ext2BackendOps, BackendState.onExt2, ext2Read]
    rw [if_neg (not_not.mpr hf.1), hf.2, if_pos hno]
    exact ⟨_, rfl⟩

/-- The calls that respect the mode of a descriptor opened on backend `b`: no `ftruncate`, and no
write to TFS through a handle with `VFS_O_RDONLY`. -/
def RespectsMode (b : Backend) (flags : UInt32) : HandleOp → Prop
  | .ftruncate _ => False
  | .write _ => b = .tfs → flags &&& vfsORdonly = 0
  | _ => True

lemma write_refused (hf : f.OpenWith flags b h) (hw : flags &&& vfsOWronly = 0) (buf : List UInt8)
    (hbuf : RespectsMode b flags (.write buf)) (hs : f.Settled) :
    ((backendOps b).write f h buf).1.Settled ∧ f.SameFiles ((backendOps b).write f h buf).1 := by
  have hrw := and_rdwr_ne_of_wronly hw
  cases b with
  | tfs =>
    have hno : ¬ tfsWritable flags := not_not.mpr ⟨hw, and_rdwr_eq_zero (hbuf rfl) hw⟩
    have hsame : (tfsWrite f.tfs h buf).1 = f.tfs := by
      rw [tfsWrite, if_neg (not_not.mpr hf.1), hf.2, if_pos hno]
      split <;> rfl
    exact hs.of_handles (congrArg Tfs.disk hsame) (congrArg Tfs.rootDirectory hsame) rfl rfl
  | ramdisk =>
    have hno : ¬ ramdiskWritable flags := not_not.mpr ⟨hw, hrw⟩
    have hsame : (ramdiskWrite f.ramdisk h buf).1 = f.ramdisk := by
      rw [ramdiskWrite, if_neg (not_not.mpr hf.1), hf.2, if_pos hno]
    exact hs.of_handles rfl rfl (congrArg Ramdisk.files hsame) rfl
  | ext2 =>
    have hno : ¬ ext2Writable flags := not_not.mpr ⟨hw, hrw⟩
    have hsame : (ext2Write f.ext2 h buf).1 = f.ext2 := by
      rw [ext2Write, if_neg (not_not.mpr hf.1)]
      dsimp only
      rw [hf.2, if_pos hno]
    refine hs.of_handles ?_ rfl rfl (congrArg Ext2.mount hsame)
    simp only [backendOps, ext2BackendOps, BackendState.onExt2, BackendState.setExt2, hsame]
    rfl

lemma ramdiskRead_files (r : Ramdisk) (h n : Nat) : (ramdiskRead r h n).1.files = r.files := by
  rw [ramdiskRead]
  split
  · rfl
  · split
    · rfl
    · dsimp only
      split <;> rfl

lemma ramdiskLseek_files (r : Ramdisk) (h : Nat) (offset whence : Int) :
    (ramdiskLseek r h offset whence).1.files = r.files := by
  rw [ramdiskLseek]
  split
  · rfl
  · split <;> rfl

lemma ext2Read_dev (e : Ext2) (h n : Nat) :
    (ext2Read e h n).1.dev = e.dev ∧ (ext2Read e h n).1.mount = e.mount := by
  rw [ext2Read]
  split
  · exact ⟨rfl, rfl⟩
  · dsimp only
    split
    · exact ⟨rfl, rfl⟩
    · split
      · exact ⟨rfl, rfl⟩
      · split
        · exact ⟨rfl, rfl⟩
        · split <;> exact ⟨rfl, rfl⟩

lemma ext2Lseek_dev (e : Ext2) (h : Nat) (offset whence : Int) :
    (ext2Lseek e h offset whence).1.dev = e.dev ∧
      (ext2Lseek e h offset whence).1.mount = e.mount := by
  rw [ext2Lseek]
  split
  · exact ⟨rfl, rfl⟩
  · dsimp only
    split
    · exact ⟨rfl, rfl⟩
    · split_ifs <;> exact ⟨rfl, rfl⟩

lemma tfsLseek_disk (t : Tfs) (h : Nat) (offset whence : Int) :
    (tfsLseek t h offset whence).1.disk = t.disk ∧
      (tfsLseek t h offset whence).1.rootDirectory = t.rootDirectory := by
  rw [tfsLseek]
  split
  · exact ⟨rfl, rfl⟩
  · dsimp only
    split_ifs <;> exact ⟨rfl, rfl⟩

lemma read_settled (hs : f.Settled) (n : Nat) :
    ((backendOps b).read f h n).1.Settled ∧ f.SameFiles ((backendOps b).read f h n).1 := by
  cases b with
  | tfs => exact tfsRead_settled hs h n
  | ramdisk => exact hs.of_handles rfl rfl (ramdiskRead_files f.ramdisk h n) rfl
  | ext2 =>
    obtain ⟨hdev, hmount⟩ := ext2Read_dev f.ext2 h n
    refine hs.of_handles ?_ rfl rfl hmount
    simp only [backendOps, ext2BackendOps, BackendState.onExt2, BackendState.setExt2, hdev]
    rfl

lemma lseek_settled (hs : f.Settled) (offset whence : Int) :
    ((backendOps b).lseek f h offset whence).1.Settled ∧
      f.SameFiles ((backendOps b).lseek f h offset whence).1 := by
  cases b with
  | tfs =>
    obtain ⟨hdisk, hdir⟩ := tfsLseek_disk f.tfs h offset whence
    exact hs.of_handles hdisk hdir rfl rfl
  | ramdisk => exact hs.of_handles rfl rfl (ramdiskLseek_files f.ramdisk h offset whence) rfl
  | ext2 =>
    obtain ⟨hdev, hmount⟩ := ext2Lseek_dev f.ext2 h offset whence
    refine hs.of_handles ?_ rfl rfl hmount
    simp only [backendOps, ext2BackendOps, BackendState.onExt2, BackendState.setExt2, hdev]
    rfl

lemma handleStep_sameFiles (hs : s.Serves task fd b h flags) (hw : flags &&& vfsOWronly = 0)
    (hf : s.files.Settled) (o : HandleOp) (ho : RespectsMode b flags o) :
    (handleStep task fd s o).1.files.Settled ∧
      s.files.SameFiles (handleStep task fd s o).1.files := by
  cases o with
  | read n =>
    simp only [handleStep, hs.read]
    exact read_settled hf n
  | write buf =>
    simp only [handleStep, hs.write]
    exact write_refused hs.openWith hw buf ho hf
  | lseek offset whence =>
    simp only [handleStep, hs.lseek]
    exact lseek_settled hf offset whence
  | ftruncate n => exact ho.elim
  | fcntl cmd arg =>
    simp only [handleStep, (hs.fcntl cmd arg).2]
    exact ⟨hf, .refl _⟩

end

variable {path : CString} {flags : UInt32}

/-! ### Opening -/

lemma ext2OpenInode_opens {e : Ext2} {inodeNum h : Nat}
    (hok : (ext2OpenInode e inodeNum flags).2 = .ok h) :
    (ext2OpenInode e inodeNum flags).1.IsOpen h ∧
      ((ext2OpenInode e inodeNum flags).1.handles h).flags = flags := by
  unfold ext2OpenInode at hok ⊢
  generalize (if flags &&& vfsOTrunc ≠ 0 then ext2TruncateInode e inodeNum 0 else (e, true)) = t
    at hok ⊢
  dsimp only at hok ⊢
  split at hok
  · cases hok
  · rename_i h₁
    split at hok
    · cases hok
    · rename_i h₂
      split at hok
      · cases hok
      · rename_i h₃
        rw [if_neg h₁, if_neg h₂, if_neg h₃]
        cases hh : ext2HandleAlloc t.1 with
        | none =>
          rw [hh] at hok
          cases hok
        | some h' =>
          rw [hh] at hok
          cases hok
          simp only [Ext2.IsOpen, Ext2.setHandle, Function.update_self, and_true]
          exact (find_free hh).1

lemma ext2Open_opens {e : Ext2} {h : Nat} (hok : (ext2Open e path flags).2 = .ok h) :
    (ext2Open e path flags).1.IsOpen h ∧ ((ext2Open e path flags).1.handles h).flags = flags := by
  unfold ext2Open at hok ⊢
  split at hok
  · cases hok
  · rename_i hm
    rw [if_neg hm]
    cases hr : resolvePath e path with
    | none =>
      rw [hr] at hok
      cases hok
    | some r =>
      rw [hr] at hok
      dsimp only at hok ⊢
      split at hok
      · rename_i hz
        rw [if_pos hz]
        split at hok
        · cases hok
        · rename_i hc
          rw [if_neg hc]
          cases hcr : (ext2Create e r.parent r.leaf).2 with
          | error err =>
            rw [hcr] at hok
            cases hok
          | ok n =>
            rw [hcr] at hok
            exact ext2OpenInode_opens hok
      · rename_i hz
        rw [if_neg hz]
        exact ext2OpenInode_opens hok

lemma openFile_openWith {f : BackendState} {b : Backend} {h : Nat}
    (hok : ((backendOps b).openFile f path flags).2 = .ok h) :
    ((backendOps b).openFile f path flags).1.OpenWith flags b h := by
  cases b with
  | tfs =>
    have hspec := tfsOpen_opens f.tfs path flags
    rw [TfsOpens, show (tfsOpen f.tfs path flags).2 = .ok h from hok] at hspec
    obtain ⟨hlt, hused, -, hflags⟩ := hspec.opened
    exact ⟨⟨hlt, hused⟩, hflags⟩
  | ramdisk =>
    have hspec := ramdiskOpen_opens f.ramdisk path flags
    rw [RamdiskOpens, show (ramdiskOpen f.ramdisk path flags).2 = .ok h from hok] at hspec
    obtain ⟨hlt, hused, hflags⟩ := hspec.opened
    exact ⟨⟨hlt, hused⟩, hflags⟩
  | ext2 => exact ext2Open_opens hok

lemma vfsOpen_serves {s t : Vfs Backend BackendState} {task : Int} {fd : Nat}
    (hopen : vfsOpen backendOps s task path flags = (t, .ok fd)) :
    ∃ b rel h, resolveMount s path = some (b, rel) ∧ t.Serves task fd b h flags := by
  unfold vfsOpen at hopen
  dsimp only at hopen
  split at hopen
  · cases hopen
  · split at hopen
    · cases hopen
    · rename_i b rel hmount
      split at hopen
      · cases hopen
      · rename_i h hok
        split at hopen
        · rename_i g i hg hi
          obtain ⟨rfl, rfl⟩ := hopen
          have hlocal : localFd ((i : Nat) : Int) = some i := by
            rw [localFd, dif_pos (by omega)]
            simp
          refine ⟨b, rel, h, hmount, ⟨g, ?_, ?_⟩, openFile_openWith hok⟩
          · rw [Vfs.openGlobalFd_eq_some]
            simp [taskFdToGlobal, hlocal, Vfs.setFd, Vfs.setTaskFd]
          · simp [Vfs.setFd, Vfs.setTaskFd]
        · cases hopen

/-! ### Runs -/

/-- A descriptor opened without `VFS_O_WRONLY` and `VFS_O_TRUNC` is used by any sequence of calls
that respects its mode: no file of any backend changes. Without `VFS_O_RDONLY` no sequence of calls
whatever returns bytes. -/
theorem openMode_enforced {s t : Vfs Backend BackendState} {task : Int} {path : CString}
    {flags : UInt32} {fd : Nat} (hopen : vfsOpen backendOps s task path flags = (t, .ok fd))
    (os : List HandleOp) :
    (t.files.Settled → flags &&& vfsOWronly = 0 → flags &&& vfsOTrunc = 0 →
      (∀ b rel, resolveMount s path = some (b, rel) → ∀ o ∈ os, RespectsMode b flags o) →
      t.files.SameFiles (Machine.run (handleStep task fd) t os).files) ∧
    (flags &&& vfsORdonly = 0 →
      ∀ bytes, HandleAnswer.data (.ok bytes) ∉ Machine.outputs (handleStep task fd) t os) := by
  obtain ⟨b, rel, h, hmount, hserves⟩ := vfsOpen_serves hopen
  constructor
  · intro hsettled hw _ hos
    have hrun : Machine.Runs (fun _ o => RespectsMode b flags o) (handleStep task fd) t os :=
      Machine.Runs.of_forall_mem (hos b rel hmount)
    have hinv := Machine.run_invariant
      (I := fun u => u.Serves task fd b h flags ∧ u.files.Settled ∧ t.files.SameFiles u.files)
      (fun u o hu ho => by
        obtain ⟨hset, hsame⟩ := handleStep_sameFiles hu.1 hw hu.2.1 o ho
        exact ⟨handleStep_serves hu.1 o, hset, hu.2.2.trans hsame⟩)
      ⟨hserves, hsettled, .refl _⟩ hrun
    exact hinv.2.2
  · intro hr bytes hmem
    clear hopen hmount
    induction os generalizing t with
    | nil => cases hmem
    | cons o os ih =>
      rw [Machine.outputs_cons, List.mem_cons] at hmem
      rcases hmem with hhead | htail
      · cases o with
        | read n =>
          obtain ⟨e, he⟩ := read_refused hserves.openWith hr n
          simp only [handleStep, hserves.read, he] at hhead
          cases hhead
        | write | lseek | ftruncate | fcntl => cases hhead
      · exact ih (handleStep_serves hserves o) htail

/-- The VFS after `vfs_init`, with the RAM disk mounted at `/r`. -/
def modeStart : Vfs Backend BackendState :=
  (vfsMount (vfsInit (Vfs.blank Backend) BackendState.init .tfs) [slash, 114] .ramdisk).1

lemma vfsOpen_ramdisk_tfs {s : Vfs Backend BackendState} (task : Int) {path rel : CString}
    (flags : UInt32) (hm : resolveMount s path = some (.ramdisk, rel)) :
    (vfsOpen backendOps s task path flags).1.files.tfs = s.files.tfs ∧
      (vfsOpen backendOps s task path flags).1.files.ext2Mount = s.files.ext2Mount := by
  unfold vfsOpen
  split
  · exact ⟨rfl, rfl⟩
  · rw [hm]
    dsimp only
    split
    · exact ⟨rfl, rfl⟩
    · split <;> exact ⟨rfl, rfl⟩

/-- A file of the RAM disk is opened for reading. -/
theorem openMode_enforced_ramdisk :
    (vfsOpen backendOps modeStart 0 [slash, 114, slash, 97] (vfsORdonly ||| vfsOCreat)).1.files.SameFiles
      (Machine.run (handleStep 0 0)
        (vfsOpen backendOps modeStart 0 [slash, 114, slash, 97] (vfsORdonly ||| vfsOCreat)).1
        [.write [1], .fcntl 2 3, .write [1], .lseek 0 2, .read 4]).files := by
  have hm : resolveMount modeStart [slash, 114, slash, 97] = some (.ramdisk, [slash, 97]) := by
    decide +kernel
  obtain ⟨htfs, hmount⟩ := vfsOpen_ramdisk_tfs 0 (vfsORdonly ||| vfsOCreat) hm
  have hok : (vfsOpen backendOps modeStart 0 [slash, 114, slash, 97]
      (vfsORdonly ||| vfsOCreat)).2 = .ok 0 := by
    decide +kernel
  generalize hopen : vfsOpen backendOps modeStart 0 [slash, 114, slash, 97]
    (vfsORdonly ||| vfsOCreat) = r at htfs hmount hok ⊢
  obtain ⟨t, res⟩ := r
  subst hok
  refine (openMode_enforced hopen _).1 ⟨?_, ?_⟩ (by decide) (by decide) ?_
  · rw [htfs]
    exact Disk.ready_boot (Device.healthy_ofSectors _)
  · rw [hmount]
    intro b hb
    cases hb
  · intro b rel hb o ho
    rw [hm] at hb
    cases hb
    simp only [List.mem_cons, List.not_mem_nil, or_false] at ho
    rcases ho with rfl | rfl | rfl | rfl | rfl
    · exact fun h => nomatch h
    · exact True.intro
    · exact fun h => nomatch h
    · exact True.intro
    · exact True.intro

/-- Through a descriptor opened with `VFS_O_RDONLY` a file of TFS can be written, and a file of the
RAM disk can be truncated. -/
theorem openMode_not_enforced :
    ((vfsOpen backendOps modeStart 0 [slash, 97] (vfsORdonly ||| vfsOCreat)).2 = .ok 0 ∧
      ¬ (vfsOpen backendOps modeStart 0 [slash, 97] (vfsORdonly ||| vfsOCreat)).1.files.SameFiles
        (Machine.run (handleStep 0 0)
          (vfsOpen backendOps modeStart 0 [slash, 97] (vfsORdonly ||| vfsOCreat)).1
          [.write [1]]).files) ∧
    (vfsOpen backendOps modeStart 0 [slash, 114, slash, 97] (vfsORdonly ||| vfsOCreat)).2 = .ok 0 ∧
      ¬ (vfsOpen backendOps modeStart 0 [slash, 114, slash, 97]
          (vfsORdonly ||| vfsOCreat)).1.files.SameFiles
        (Machine.run (handleStep 0 0)
          (vfsOpen backendOps modeStart 0 [slash, 114, slash, 97] (vfsORdonly ||| vfsOCreat)).1
          [.ftruncate 5]).files := by
  refine ⟨⟨by decide +kernel, fun h => ?_⟩, by decide +kernel, fun h => ?_⟩
  · exact absurd (congrArg (fun d => TfsDirectory.size d 0) h.tfsDirectory) (by decide +kernel)
  · exact absurd (congrArg (fun files => (files 0).size) h.ramdiskFiles) (by decide +kernel)

end NeuroSpark
