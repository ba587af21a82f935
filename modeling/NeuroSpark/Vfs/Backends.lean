import NeuroSpark.Ext2.Operations
import NeuroSpark.Tfs.Model
import NeuroSpark.Vfs.Descriptors
import NeuroSpark.Vfs.Ramdisk

/-!
# The backends of the VFS

The three file systems as rows of one table. TFS goes to the disk through the page cache and ext2
past it, so both share the disk that the state of TFS holds.

`vfs_init` resets the handles of TFS and of the RAM disk, which `vfs.c` itself implements. For these
two the descriptor tables stay consistent along every run.
-/

namespace NeuroSpark

inductive Backend where
  | tfs
  | ramdisk
  | ext2
  deriving DecidableEq

structure BackendState where
  tfs : Tfs
  ramdisk : Ramdisk
  ext2Mount : Ext2MountState
  ext2Handles : Nat → Ext2Handle
  stack : Nat → UInt8

namespace BackendState

variable {α : Type}

/-- The state of ext2, with the disk as it is. -/
def ext2 (s : BackendState) : Ext2 := ⟨s.tfs.disk.dev, s.ext2Mount, s.ext2Handles, s.stack⟩

def setExt2 (s : BackendState) (e : Ext2) : BackendState :=
  { s with
    tfs := { s.tfs with disk := { s.tfs.disk with dev := e.dev } }
    ext2Mount := e.mount
    ext2Handles := e.handles }

def onTfs (s : BackendState) (r : Tfs × α) : BackendState × α := ({ s with tfs := r.1 }, r.2)

def onRamdisk (s : BackendState) (r : Ramdisk × α) : BackendState × α :=
  ({ s with ramdisk := r.1 }, r.2)

def onExt2 (s : BackendState) (r : Ext2 × α) : BackendState × α := (s.setExt2 r.1, r.2)

end BackendState

def tfsBackendOps : VfsBackendOps BackendState where
  openFile s path flags := s.onTfs (tfsOpen s.tfs path flags)
  read s h size := s.onTfs (tfsRead s.tfs h size)
  write s h buf := s.onTfs (tfsWrite s.tfs h buf)
  close s h := s.onTfs (tfsClose s.tfs h)
  lseek s h offset whence := s.onTfs (tfsLseek s.tfs h offset whence)
  ftruncate s h size := s.onTfs (tfsFtruncate s.tfs h size)

def ramdiskBackendOps : VfsBackendOps BackendState where
  openFile s path flags := s.onRamdisk (ramdiskOpen s.ramdisk path flags)
  read s h size := s.onRamdisk (ramdiskRead s.ramdisk h size)
  write s h buf := s.onRamdisk (ramdiskWrite s.ramdisk h buf)
  close s h := s.onRamdisk (ramdiskClose s.ramdisk h)
  lseek s h offset whence := s.onRamdisk (ramdiskLseek s.ramdisk h offset whence)
  ftruncate s h size := s.onRamdisk (ramdiskFtruncate s.ramdisk h size)

def ext2BackendOps : VfsBackendOps BackendState where
  openFile s path flags := s.onExt2 (ext2Open s.ext2 path flags)
  read s h size := s.onExt2 (ext2Read s.ext2 h size)
  write s h buf := s.onExt2 (ext2Write s.ext2 h buf)
  close s h := s.onExt2 (ext2Close s.ext2 h)
  lseek s h offset whence := s.onExt2 (ext2Lseek s.ext2 h offset whence)
  ftruncate s h size := s.onExt2 (ext2Ftruncate s.ext2 h size)

def backendOps : Backend → VfsBackendOps BackendState
  | .tfs => tfsBackendOps
  | .ramdisk => ramdiskBackendOps
  | .ext2 => ext2BackendOps

/-- The part of `vfs_init` that resets the backends. -/
def BackendState.init (s : BackendState) : BackendState :=
  { s with
    tfs := { s.tfs with
      handles := fun h => { s.tfs.handles h with used := false, refCount := 0 } }
    ramdisk := s.ramdisk.init }

/-! ### Handles -/

/-- The handle is marked used. -/
def BackendState.IsOpen (s : BackendState) : Backend → Nat → Prop
  | .tfs, h => s.tfs.IsOpen h
  | .ramdisk, h => s.ramdisk.IsOpen h
  | .ext2, h => s.ext2.IsOpen h

/-- The backends never share a handle of their own: sharing is left to the VFS. -/
def BackendState.Unshared (s : BackendState) : Prop :=
  ∀ h, (s.tfs.handles h).used = true → (s.tfs.handles h).refCount = 1

/-- What opening a file does to a table of `limit` handles: nothing when it fails, else one handle
that was free is set. -/
inductive OpensHandle {H : Type} (used : H → Bool) (limit : Nat) (new : H → Prop)
    (before after : Nat → H) : VfsResult → Prop
  | error (e : VfsError) : after = before → OpensHandle used limit new before after (.error e)
  | ok (h : Nat) (x : H) : h < limit → used (before h) = false → used x = true → new x →
      after = Function.update before h x → OpensHandle used limit new before after (.ok h)

namespace OpensHandle

variable {H : Type} {used : H → Bool} {limit : Nat} {new : H → Prop} {before after : Nat → H}

lemma fresh {h : Nat} (hr : OpensHandle used limit new before after (.ok h)) :
    used (before h) = false := by
  cases hr with
  | ok _ x _ hfree => exact hfree

lemma used_iff {h : Nat} (hr : OpensHandle used limit new before after (.ok h)) (h' : Nat) :
    h' < limit ∧ used (after h') = true ↔ h' < limit ∧ used (before h') = true ∨ h' = h := by
  cases hr with
  | ok _ x hlt hfree hx hn hafter =>
    subst hafter
    by_cases he : h' = h
    · subst he
      simp [hlt, hx]
    · simp [he]

lemma after_eq {e : VfsError} (hr : OpensHandle used limit new before after (.error e)) :
    after = before := by
  cases hr with
  | error _ h => exact h

lemma opened {h : Nat} (hr : OpensHandle used limit new before after (.ok h)) :
    h < limit ∧ used (after h) = true ∧ new (after h) := by
  cases hr with
  | ok _ x hlt hfree hx hn hafter =>
    subst hafter
    simp [hlt, hx, hn]

lemma forall_used {r : VfsResult} (hr : OpensHandle used limit new before after r) {P : H → Prop}
    (hnew : ∀ x, new x → P x) (hP : ∀ h, used (before h) = true → P (before h)) (h : Nat)
    (hh : used (after h) = true) : P (after h) := by
  cases hr with
  | error e hafter =>
    subst hafter
    exact hP h hh
  | ok h₀ x hlt hfree hx hn hafter =>
    subst hafter
    by_cases he : h = h₀
    · subst he
      rw [Function.update_self]
      exact hnew x hn
    · rw [Function.update_of_ne he] at hh ⊢
      exact hP h hh

end OpensHandle

variable {h : Nat}

lemma find_free {used : Nat → Bool} {limit h : Nat}
    (hh : (List.range limit).find? (fun i => !used i) = some h) : h < limit ∧ used h = false := by
  have hused := List.find?_some hh
  simp only [Bool.not_eq_eq_eq_not, Bool.not_true] at hused
  exact ⟨List.mem_range.mp (List.mem_of_find?_eq_some hh), hused⟩

/-- What `tfs_open` does to the handles. -/
def TfsOpens (flags : UInt32) (s : Tfs) (r : Tfs × VfsResult) : Prop :=
  OpensHandle TfsHandle.used tfsMaxHandles (fun x => x.refCount = 1 ∧ x.flags = flags) s.handles
    r.1.handles r.2

lemma tfsOpenEntry_opens (s : Tfs) (i : Fin 25) (flags : UInt32) :
    TfsOpens flags s (tfsOpenEntry s i flags) := by
  unfold tfsOpenEntry
  have hsame : (if flags &&& vfsOTrunc ≠ 0 then s.updateDirectory (s.rootDirectory.setSize i 0)
      else s).handles = s.handles := by
    split_ifs <;> rfl
  generalize (if flags &&& vfsOTrunc ≠ 0 then s.updateDirectory (s.rootDirectory.setSize i 0)
    else s) = t at hsame ⊢
  dsimp only
  cases hh : tfsAllocHandle t with
  | none => exact .error _ hsame
  | some h =>
    obtain ⟨hlt, hfree⟩ := find_free hh
    rw [hsame] at hfree
    refine .ok h ⟨true, 1, i, 0, flags⟩ hlt hfree rfl ⟨rfl, rfl⟩ ?_
    rw [← hsame]
    rfl

lemma tfsOpen_opens (s : Tfs) (path : CString) (flags : UInt32) :
    TfsOpens flags s (tfsOpen s path flags) := by
  have hentry : ∀ (t : Tfs) (i : Fin 25), t.handles = s.handles →
      TfsOpens flags s (tfsOpenEntry t i flags) := by
    intro t i ht
    have h := tfsOpenEntry_opens t i flags
    rw [TfsOpens, ht] at h
    exact h
  unfold tfsOpen
  split
  · exact .error _ rfl
  · cases normalizeTfsName path with
    | none => exact .error _ rfl
    | some nm =>
      dsimp only
      cases tfsFindEntryByName s.loadDirectory.rootDirectory nm with
      | some i => exact hentry _ i rfl
      | none =>
        dsimp only
        split
        · exact .error _ rfl
        · cases findFreeSlot s.loadDirectory.rootDirectory with
          | none => exact .error _ rfl
          | some i => exact hentry _ i rfl

/-- What `ramdisk_open` does to the handles. -/
def RamdiskOpens (flags : UInt32) (s : Ramdisk) (r : Ramdisk × VfsResult) : Prop :=
  OpensHandle RamdiskHandle.used ramdiskMaxHandles (fun x => x.flags = flags) s.handles
    r.1.handles r.2

lemma ramdiskOpenEntry_opens (s : Ramdisk) (i : Fin 64) (flags : UInt32) :
    RamdiskOpens flags s (ramdiskOpenEntry s i flags) := by
  unfold ramdiskOpenEntry
  cases hh : ramdiskAllocHandle s with
  | none => exact .error _ rfl
  | some h =>
    obtain ⟨hlt, hfree⟩ := find_free hh
    exact .ok h ⟨true, i, 0, flags⟩ hlt hfree rfl rfl rfl

lemma ramdiskOpen_opens (s : Ramdisk) (path : CString) (flags : UInt32) :
    RamdiskOpens flags s (ramdiskOpen s path flags) := by
  have hentry : ∀ (t : Ramdisk) (i : Fin 64), t.handles = s.handles →
      RamdiskOpens flags s (ramdiskOpenEntry t i flags) := by
    intro t i ht
    have h := ramdiskOpenEntry_opens t i flags
    rw [RamdiskOpens, ht] at h
    exact h
  unfold ramdiskOpen
  cases ramdiskExtractName path with
  | none => exact .error _ rfl
  | some nm =>
    dsimp only
    cases ramdiskFindEntry s nm with
    | none =>
      dsimp only
      split
      · exact .error _ rfl
      · cases ramdiskAllocEntry s with
        | none => exact .error _ rfl
        | some i => exact hentry _ i rfl
    | some i =>
      dsimp only
      split
      · exact hentry _ i rfl
      · exact hentry _ i rfl

/-! ### The backends that `vfs_init` resets -/

abbrev OwnBackend := { b : Backend // b ≠ .ext2 }

def ownOps (b : OwnBackend) : VfsBackendOps BackendState := backendOps b.1

def OwnBackend.tfs : OwnBackend := ⟨.tfs, by decide⟩
def OwnBackend.ramdisk : OwnBackend := ⟨.ramdisk, by decide⟩

def BackendState.OwnOpen (s : BackendState) (b : OwnBackend) (h : Nat) : Prop := s.IsOpen b.1 h

lemma used_update_iff {H : Type} {used : H → Bool} {t : Nat → H} {x : H} {limit : Nat}
    (hx : used x = false) (h' : Nat) :
    h' < limit ∧ used (Function.update t h x h') = true ↔
      (h' < limit ∧ used (t h') = true) ∧ h' ≠ h := by
  by_cases he : h' = h
  · subst he
    simp [hx]
  · simp [he]

lemma tfsClose_isOpen {s : Tfs} (hopen : s.IsOpen h) (hone : (s.handles h).refCount = 1)
    (h' : Nat) :
    (tfsClose s h).1.IsOpen h' ↔ s.IsOpen h' ∧ h' ≠ h := by
  rw [tfsClose, if_neg (not_not.mpr hopen), if_neg (by omega)]
  exact used_update_iff rfl h'

lemma ramdiskClose_isOpen {s : Ramdisk} (hopen : s.IsOpen h) (h' : Nat) :
    (ramdiskClose s h).1.IsOpen h' ↔ s.IsOpen h' ∧ h' ≠ h := by
  rw [ramdiskClose, if_neg (not_not.mpr hopen)]
  exact used_update_iff rfl h'

lemma ext2Close_isOpen {s : Ext2} (hopen : s.IsOpen h) (hone : (s.handles h).refCount = 1)
    (h' : Nat) :
    (ext2Close s h).1.IsOpen h' ↔ s.IsOpen h' ∧ h' ≠ h := by
  rw [ext2Close, ext2HandleClose, if_neg (not_not.mpr hopen), if_neg (by omega)]
  exact used_update_iff rfl h'

lemma tfsClose_unshared {s : Tfs} (hs : ∀ h, (s.handles h).used = true → (s.handles h).refCount = 1)
    (h h' : Nat) (hused : ((tfsClose s h).1.handles h').used = true) :
    ((tfsClose s h).1.handles h').refCount = 1 := by
  by_cases hopen : s.IsOpen h
  · have hone := hs h hopen.2
    rw [tfsClose, if_neg (not_not.mpr hopen), if_neg (by omega)] at hused ⊢
    simp only [Tfs.setHandle] at hused ⊢
    by_cases he : h' = h
    · subst he
      simp at hused
    · rw [Function.update_of_ne he] at hused ⊢
      exact hs h' hused
  · rw [tfsClose, if_pos hopen] at hused ⊢
    exact hs h' hused

/-- The backends keep to what the VFS relies on. -/
theorem ownOps_laws : HandleLaws ownOps BackendState.OwnOpen BackendState.Unshared where
  openFile_good := by
    rintro s ⟨b, hb⟩ path flags hs
    cases b with
    | tfs => exact (tfsOpen_opens s.tfs path flags).forall_used (fun x hx => hx.1) hs
    | ramdisk => exact hs
    | ext2 => exact absurd rfl hb
  openFile_fresh := by
    rintro s ⟨b, hb⟩ path flags h hs hok hopen
    cases b with
    | tfs =>
      have hspec := tfsOpen_opens s.tfs path flags
      rw [TfsOpens, show (tfsOpen s.tfs path flags).2 = .ok h from hok] at hspec
      exact Bool.false_ne_true (hspec.fresh.symm.trans hopen.2)
    | ramdisk =>
      have hspec := ramdiskOpen_opens s.ramdisk path flags
      rw [RamdiskOpens, show (ramdiskOpen s.ramdisk path flags).2 = .ok h from hok] at hspec
      exact Bool.false_ne_true (hspec.fresh.symm.trans hopen.2)
    | ext2 => exact absurd rfl hb
  openFile_ok := by
    rintro s ⟨b, hb⟩ path flags h hs hok ⟨b', hb'⟩ h'
    cases b with
    | tfs =>
      have hspec := tfsOpen_opens s.tfs path flags
      rw [TfsOpens, show (tfsOpen s.tfs path flags).2 = .ok h from hok] at hspec
      cases b' with
      | tfs => exact (hspec.used_iff h').trans (or_congr Iff.rfl (and_iff_right rfl).symm)
      | ramdisk => exact (or_iff_left fun he => by cases he.1).symm
      | ext2 => exact absurd rfl hb'
    | ramdisk =>
      have hspec := ramdiskOpen_opens s.ramdisk path flags
      rw [RamdiskOpens, show (ramdiskOpen s.ramdisk path flags).2 = .ok h from hok] at hspec
      cases b' with
      | tfs => exact (or_iff_left fun he => by cases he.1).symm
      | ramdisk => exact (hspec.used_iff h').trans (or_congr Iff.rfl (and_iff_right rfl).symm)
      | ext2 => exact absurd rfl hb'
    | ext2 => exact absurd rfl hb
  openFile_error := by
    rintro s ⟨b, hb⟩ path flags e hs herr ⟨b', hb'⟩ h'
    cases b with
    | tfs =>
      have hspec := tfsOpen_opens s.tfs path flags
      rw [TfsOpens, show (tfsOpen s.tfs path flags).2 = .error e from herr] at hspec
      cases b' with
      | tfs => exact and_congr_right fun _ => by rw [← hspec.after_eq]; exact Iff.rfl
      | ramdisk => exact Iff.rfl
      | ext2 => exact absurd rfl hb'
    | ramdisk =>
      have hspec := ramdiskOpen_opens s.ramdisk path flags
      rw [RamdiskOpens, show (ramdiskOpen s.ramdisk path flags).2 = .error e from herr] at hspec
      cases b' with
      | tfs => exact Iff.rfl
      | ramdisk => exact and_congr_right fun _ => by rw [← hspec.after_eq]; exact Iff.rfl
      | ext2 => exact absurd rfl hb'
    | ext2 => exact absurd rfl hb
  close_good := by
    rintro s ⟨b, hb⟩ h hs
    cases b with
    | tfs => exact tfsClose_unshared hs h
    | ramdisk => exact hs
    | ext2 => exact absurd rfl hb
  close := by
    rintro s ⟨b, hb⟩ h hs hopen ⟨b', hb'⟩ h'
    cases b with
    | tfs =>
      cases b' with
      | tfs =>
        exact (tfsClose_isOpen hopen (hs h hopen.2) h').trans
          (and_congr Iff.rfl (not_congr (and_iff_right rfl).symm))
      | ramdisk => exact (and_iff_left fun he => by cases he.1).symm
      | ext2 => exact absurd rfl hb'
    | ramdisk =>
      cases b' with
      | tfs => exact (and_iff_left fun he => by cases he.1).symm
      | ramdisk =>
        exact (ramdiskClose_isOpen hopen h').trans
          (and_congr Iff.rfl (not_congr (and_iff_right rfl).symm))
      | ext2 => exact absurd rfl hb'
    | ext2 => exact absurd rfl hb

instance {β σ : Type} (s : Vfs β σ) (o : FdOp β) : Decidable (ClonesIntoEmpty s o) :=
  match o with
  | .cloneTaskFds _ dst =>
    inferInstanceAs (Decidable (∀ t, taskIndex dst = some t → ∀ i, s.taskFdMap (t, i) < 0))
  | .mount _ _ | .umount _ | .openFile _ _ _ | .close _ _ | .dup _ _ | .dup2 _ _ _ | .pipe _
  | .closeAllForTask _ => isTrue trivial

/-- Along every run of descriptor operations from `vfs_init`, over TFS and the RAM disk and by any
tasks, the descriptor tables agree. -/
theorem vfsDescriptors_consistent (s : Vfs OwnBackend BackendState) (os : List (FdOp OwnBackend))
    (hrun : Machine.Runs ClonesIntoEmpty (fdStep ownOps)
      (vfsInit s BackendState.init OwnBackend.tfs) os) :
    (Machine.run (fdStep ownOps) (vfsInit s BackendState.init OwnBackend.tfs) os).Consistent
      BackendState.OwnOpen BackendState.Unshared := by
  refine Machine.run_invariant (fdStep_consistent ownOps_laws) ?_ hrun
  apply vfsInit_consistent
  intro h hused
  cases hused

/-- The state of `vfs.c` before `vfs_init`, over an empty disk. -/
def Vfs.blank (β : Type) : Vfs β BackendState where
  mounts _ := ⟨false, [], 0, none⟩
  fdTable _ := VfsFd.closed
  taskFdMap _ := 0
  pipes _ := ⟨false, Bytes.zero, 0, 0, 0, 0, 0⟩
  pipeHandles _ := ⟨false, 0, false⟩
  files :=
    { tfs := ⟨Disk.boot (Device.ofSectors fun _ => Bytes.zero), true, Bytes.zero,
        fun _ => ⟨false, 0, 0, 0, 0⟩⟩
      ramdisk := ⟨fun _ => ⟨false, [], 0, 0, 0, Bytes.zero⟩, fun _ => RamdiskHandle.closed, 0, 0⟩
      ext2Mount := ⟨false, 0, 0, 0, 0, 0, 0, 0, 0, 0⟩
      ext2Handles := fun _ => ⟨false, 0, 0, 0, 0⟩
      stack := fun _ => 0 }

/-- A file of the RAM disk `/r` is opened, duplicated and given to task 1. -/
def openDupClone : List (FdOp OwnBackend) :=
  [.mount [slash, 114] .ramdisk, .openFile 0 [slash, 114, slash, 97] vfsOCreat, .dup 0 0,
    .closeAllForTask 1, .cloneTaskFds 0 1, .close 0 0]

/-- A file is opened, a descriptor duplicated, a table cloned. -/
theorem vfsDescriptors_consistent_openDupClone :
    (Machine.run (fdStep ownOps) (vfsInit (Vfs.blank OwnBackend) BackendState.init OwnBackend.tfs)
      openDupClone).Consistent BackendState.OwnOpen BackendState.Unshared :=
  vfsDescriptors_consistent (Vfs.blank OwnBackend) openDupClone
    ⟨trivial, trivial, trivial, trivial, by decide +kernel, trivial, trivial⟩

end NeuroSpark
