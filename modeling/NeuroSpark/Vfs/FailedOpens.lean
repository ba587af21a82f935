import NeuroSpark.Ext2.Opening
import NeuroSpark.Vfs.Modes
import NeuroSpark.Vfs.Opening

/-!
# Failed calls of `vfs_open`

Each backend creates or truncates the file before it looks for a handle, and the VFS looks for its
descriptors after that. A call that fails for want of one of them has changed the file already: the
handle is closed, the file stays. All other calls that fail leave the files of all backends as they
are.
-/

namespace NeuroSpark

open Word

/-- The same files exist in all backends, with the same sizes and contents. -/
structure BackendState.KeepsFiles (s t : BackendState) : Prop where
  tfs : t.tfs.fileAt = s.tfs.fileAt
  ramdisk : t.ramdisk.fileAt = s.ramdisk.fileAt
  ext2 : ∀ path, ext2FileAt t.ext2 path = ext2FileAt s.ext2 path

lemma BackendState.KeepsFiles.trans {s t u : BackendState} (h : s.KeepsFiles t)
    (h' : t.KeepsFiles u) : s.KeepsFiles u :=
  ⟨h'.tfs.trans h.tfs, h'.ramdisk.trans h.ramdisk, fun path => (h'.ext2 path).trans (h.ext2 path)⟩

/-- No file has changed, and no handle is in use that was not. -/
structure BackendState.Unchanged (s t : BackendState) : Prop where
  files : s.KeepsFiles t
  handles : ∀ b h, t.IsOpen b h → s.IsOpen b h

lemma BackendState.Unchanged.refl (s : BackendState) : s.Unchanged s :=
  ⟨⟨rfl, rfl, fun _ => rfl⟩, fun _ _ h => h⟩

/-! ### All backends -/

namespace BackendState

/-- The call creates a file or truncates one that holds something. -/
def OpenAlters (s : BackendState) (path : CString) (flags : UInt32) : Backend → Prop
  | .tfs => TfsOpenAlters s.tfs path flags
  | .ramdisk => RamdiskOpenAlters s.ramdisk path flags
  | .ext2 => Ext2OpenAlters s.ext2 path flags

/-- The backend has a free handle. -/
def HandleFree (s : BackendState) : Backend → Prop
  | .tfs => tfsAllocHandle s.tfs ≠ none
  | .ramdisk => ramdiskAllocHandle s.ramdisk ≠ none
  | .ext2 => ext2HandleAlloc s.ext2 ≠ none

instance (s : BackendState) (b : Backend) : Decidable (s.HandleFree b) :=
  match b with
  | .tfs => inferInstanceAs (Decidable (tfsAllocHandle s.tfs ≠ none))
  | .ramdisk => inferInstanceAs (Decidable (ramdiskAllocHandle s.ramdisk ≠ none))
  | .ext2 => inferInstanceAs (Decidable (ext2HandleAlloc s.ext2 ≠ none))

/-- The mounted image is well formed, without the directory of TFS among its sectors, and none of
them waits in the page cache to be written back. -/
structure ImageSettled (s : BackendState) : Prop where
  wellFormed : ∃ L, s.ext2.WellFormed L
  directory : ¬ s.ext2Mount.Covers tfsDirLba
  clean : ∀ lba, s.ext2Mount.Covers lba → ∀ i, s.tfs.disk.Holds i lba →
    (s.tfs.disk.line i).dirty = false

/-- The mounted image is well formed, and no sector of TFS is among its own. -/
structure ImageApart (s : BackendState) : Prop where
  wellFormed : ∃ L, s.ext2.WellFormed L
  directory : ¬ s.ext2Mount.Covers tfsDirLba
  files : ∀ i, s.tfs.directory.flags i = 1 → ∀ k < s.tfs.directory.size i,
    ¬ s.ext2Mount.Covers ((512 * s.tfs.directory.lba i + k) / 512)

/-- The disk does not fail, and what the backends have on it does not overlap as far as the call
touches it. -/
def OpenFits (s : BackendState) (path : CString) (flags : UInt32) : Backend → Prop
  | .tfs => s.tfs.disk.Ready ∧ (s.ext2Mount.mounted = true → s.ImageSettled)
  | .ramdisk => True
  | .ext2 => s.tfs.disk.dev.Healthy ∧ ∀ r, Ext2OpenCreates s.ext2 path flags r →
      (0 : UInt8) ∉ path ∧ s.ImageApart

end BackendState

section

variable {s t : BackendState} {path : CString} {flags : UInt32}

lemma ext2FileAt_unmounted {e : Ext2} (he : e.mount.mounted = false) (path : CString) :
    ext2FileAt e path = none := by
  rw [ext2FileAt, he]
  rfl

lemma BackendState.KeepsFiles.of_sameDisk {r : Tfs} (hs : s.tfs.disk.Ready)
    (himage : s.ext2Mount.mounted = true → s.ImageSettled) (h : s.tfs.SameDisk r) :
    s.KeepsFiles { s with tfs := r } := by
  refine ⟨h.fileAt, rfl, fun p => ?_⟩
  by_cases hm : s.ext2Mount.mounted = true
  swap
  · rw [Bool.not_eq_true] at hm
    rw [ext2FileAt_unmounted (by exact hm), ext2FileAt_unmounted (by exact hm)]
  · obtain ⟨⟨L, hw⟩, hdir, hclean⟩ := himage hm
    -- on the sectors of the image the device shows what the cache does, before and after
    have hsect : ∀ lba, s.ext2Mount.Covers lba →
        r.disk.dev.sectors lba = s.tfs.disk.dev.sectors lba := by
      intro lba hlba
      have hne : lba ≠ tfsDirLba := by
        rintro rfl
        exact hdir hlba
      have hclean' : ∀ i, r.disk.Holds i lba → (r.disk.line i).dirty = false := by
        intro i hi
        by_contra hd
        rw [Bool.not_eq_false] at hd
        obtain ⟨hsi, hsd⟩ := h.dirty i lba hi hd hne
        exact Bool.false_ne_true ((hclean lba hlba i hsi).symm.trans hsd)
      rw [h.ready.sectors_eq_view hclean', hs.sectors_eq_view (hclean lba hlba), h.view]
    refine (SameImage.of_sectors hw (t := BackendState.ext2 { s with tfs := r }) h.ready.healthy
      rfl rfl fun b hb => ?_).fileAt hw p
    obtain ⟨hlow, hhigh⟩ := Ext2MountState.covers_block hw.layout.fits.blocks hb
    exact congrArg₂ joinSectors (hsect _ hlow) (hsect _ hhigh)

lemma BackendState.tfs_fileAt_setExt2 {e : Ext2} (hs : s.tfs.disk.dev.Healthy)
    (he : e.dev.Healthy) (hw : WritesInside s.ext2 e)
    (hdir : ¬ s.ext2Mount.Covers tfsDirLba)
    (hfiles : ∀ i, s.tfs.directory.flags i = 1 → ∀ k < s.tfs.directory.size i,
      ¬ s.ext2Mount.Covers ((512 * s.tfs.directory.lba i + k) / 512)) :
    (s.setExt2 e).tfs.fileAt = s.tfs.fileAt := by
  have hview : ∀ lba, ¬ s.ext2Mount.Covers lba →
      (s.setExt2 e).tfs.disk.view lba = s.tfs.disk.view lba := by
    intro lba hlba
    have hline : findLine (s.setExt2 e).tfs.disk lba = findLine s.tfs.disk lba := rfl
    rw [Disk.view, Disk.view, hline]
    cases findLine s.tfs.disk lba with
    | some i => rfl
    | none =>
      have hold : s.tfs.disk.dev.contents lba = s.tfs.disk.dev.sectors lba := congrFun hs.contents lba
      have hnew : e.dev.contents lba = e.dev.sectors lba := congrFun he.contents lba
      exact hnew.trans ((hw.outside lba hlba).trans hold.symm)
  have hdirectory : (s.setExt2 e).tfs.directory = s.tfs.directory := by
    rw [Tfs.directory, Tfs.directory, hview _ hdir]
    rfl
  funext i
  simp only [Tfs.fileAt, hdirectory]
  split_ifs with hused
  · have hcontents : ({ (s.setExt2 e).tfs with rootDirectory := s.tfs.directory } : Tfs).contents i =
        ({ s.tfs with rootDirectory := s.tfs.directory } : Tfs).contents i := by
      apply List.map_congr_left
      intro k hk
      rw [List.mem_range] at hk
      exact congrArg (fun sec => Bytes.get sec _) (hview _ (hfiles i hused k hk))
    rw [hcontents]
  · rfl

lemma BackendState.close_keepsFiles (s : BackendState) (b : Backend) (h : Nat) :
    s.KeepsFiles ((backendOps b).close s h).1 := by
  cases b with
  | tfs =>
    simp only [backendOps, tfsBackendOps, BackendState.onTfs, tfsClose]
    split_ifs
    · exact ⟨rfl, rfl, fun _ => rfl⟩
    · exact ⟨rfl, rfl, fun _ => rfl⟩
    · exact ⟨rfl, rfl, fun _ => rfl⟩
  | ramdisk =>
    simp only [backendOps, ramdiskBackendOps, BackendState.onRamdisk, ramdiskClose]
    split_ifs
    · exact ⟨rfl, rfl, fun _ => rfl⟩
    · exact ⟨rfl, rfl, fun _ => rfl⟩
  | ext2 =>
    simp only [backendOps, ext2BackendOps, BackendState.onExt2, ext2Close, ext2HandleClose]
    split_ifs
    · exact ⟨rfl, rfl, fun p => ext2FileAt_setHandle s.ext2 h _ p⟩
    · exact ⟨rfl, rfl, fun p => ext2FileAt_setHandle s.ext2 h _ p⟩
    · exact ⟨rfl, rfl, fun _ => rfl⟩

/-- The files of the result are those of `s`, and with the handle closed again its handles are no
more than those of `s`. -/
structure BackendState.Undoes (s : BackendState) (b : Backend) (r : BackendState × VfsResult) :
    Prop where
  files : s.KeepsFiles r.1
  error : ∀ e, r.2 = .error e → ∀ b' h', r.1.IsOpen b' h' → s.IsOpen b' h'
  closed : ∀ h, r.2 = .ok h → ∀ b' h', ((backendOps b).close r.1 h).1.IsOpen b' h' → s.IsOpen b' h'

lemma ext2Gives_opens {u : Ext2} {r : Ext2 × VfsResult} (h : Ext2Gives u flags r) :
    OpensHandle Ext2Handle.used ext2MaxHandles (fun x => x.refCount = 1) u.handles r.1.handles
      r.2 := by
  cases h with
  | error e => exact .error e rfl
  | ok h n hlt hfree => exact .ok h (newHandle n flags) hlt hfree rfl rfl rfl

lemma ext2Gives_frame {u : Ext2} {r : Ext2 × VfsResult} (h : Ext2Gives u flags r) :
    r.1.dev = u.dev ∧ r.1.stack = u.stack ∧ ∀ p, ext2FileAt r.1 p = ext2FileAt u p := by
  cases h with
  | error e => exact ⟨rfl, rfl, fun _ => rfl⟩
  | ok h n => exact ⟨rfl, rfl, ext2FileAt_setHandle u h _⟩

lemma BackendState.ext2_setExt2 {e : Ext2} (h : e.stack = s.stack) : (s.setExt2 e).ext2 = e := by
  obtain ⟨dev, mount, handles, stack⟩ := e
  cases h
  rfl

/-- A call that alters nothing can be undone by closing the handle. -/
lemma openFile_unaltered {b : Backend} (hfit : s.OpenFits path flags b)
    (hno : ¬ s.OpenAlters path flags b) :
    s.Undoes b ((backendOps b).openFile s path flags) := by
  cases b with
  | tfs =>
    obtain ⟨hready, himage⟩ := hfit
    have hspec := tfsOpen_opens s.tfs path flags
    refine ⟨.of_sameDisk hready himage (tfsOpen_unaltered hready hno), fun e he b' h' ho => ?_,
      fun h hh b' h' ho => ?_⟩
    · rw [TfsOpens, show (tfsOpen s.tfs path flags).2 = .error e from he] at hspec
      cases b' with
      | tfs => exact ⟨ho.1, hspec.after_eq ▸ ho.2⟩
      | ramdisk | ext2 => exact ho
    · rw [TfsOpens, show (tfsOpen s.tfs path flags).2 = .ok h from hh] at hspec
      cases b' with
      | tfs =>
        obtain ⟨hlt, hused, hone, -⟩ := hspec.opened
        obtain ⟨ho', hne⟩ := (tfsClose_isOpen ⟨hlt, hused⟩ hone h').mp ho
        exact ((hspec.used_iff h').mp ho').resolve_right hne
      | ramdisk | ext2 => exact ho
  | ramdisk =>
    have hspec := ramdiskOpen_opens s.ramdisk path flags
    refine ⟨⟨rfl, ramdiskOpen_unaltered hno, fun _ => rfl⟩, fun e he b' h' ho => ?_,
      fun h hh b' h' ho => ?_⟩
    · rw [RamdiskOpens, show (ramdiskOpen s.ramdisk path flags).2 = .error e from he] at hspec
      cases b' with
      | ramdisk => exact ⟨ho.1, hspec.after_eq ▸ ho.2⟩
      | tfs | ext2 => exact ho
    · rw [RamdiskOpens, show (ramdiskOpen s.ramdisk path flags).2 = .ok h from hh] at hspec
      cases b' with
      | ramdisk =>
        obtain ⟨hlt, hused, -⟩ := hspec.opened
        obtain ⟨ho', hne⟩ := (ramdiskClose_isOpen ⟨hlt, hused⟩ h').mp ho
        exact ((hspec.used_iff h').mp ho').resolve_right hne
      | tfs | ext2 => exact ho
  | ext2 =>
    obtain ⟨hhealthy, himage⟩ := hfit
    obtain ⟨u, hgives, hhandles, hsame⟩ :=
      ext2Open_unaltered (fun r hr => ⟨(himage r hr).1, (himage r hr).2.wellFormed⟩) hno
    have hspec := ext2Gives_opens hgives
    rw [hhandles] at hspec
    obtain ⟨hdev, hstack, hfile⟩ := ext2Gives_frame hgives
    have hkeeps : u.stack = s.stack ∧ (∀ p, ext2FileAt u p = ext2FileAt s.ext2 p) ∧
        (s.setExt2 u).tfs.fileAt = s.tfs.fileAt := by
      rcases hsame with rfl | ⟨r, L, hc, hw, hsame, hinside⟩
      · exact ⟨rfl, fun _ => rfl, rfl⟩
      · obtain ⟨-, hapart⟩ := himage r hc
        exact ⟨hsame.stack, hsame.fileAt hw, BackendState.tfs_fileAt_setExt2
          hhealthy hsame.layout.healthy hinside hapart.directory hapart.files⟩
    obtain ⟨hustack, hufile, htfs⟩ := hkeeps
    have hself : (s.setExt2 (ext2Open s.ext2 path flags).1).ext2 =
        (ext2Open s.ext2 path flags).1 := BackendState.ext2_setExt2 (hstack.trans hustack)
    have hfiles : s.KeepsFiles (s.setExt2 (ext2Open s.ext2 path flags).1) := by
      refine ⟨?_, rfl, fun p => ?_⟩
      · rw [← htfs, BackendState.setExt2, hdev]
        rfl
      · rw [hself, hfile, hufile]
    refine ⟨hfiles, fun e he b' h' ho => ?_, fun h hh b' h' ho => ?_⟩
    · rw [show (ext2Open s.ext2 path flags).2 = .error e from he] at hspec
      cases b' with
      | ext2 => exact ⟨ho.1, hspec.after_eq ▸ ho.2⟩
      | tfs | ramdisk => exact ho
    · rw [show (ext2Open s.ext2 path flags).2 = .ok h from hh] at hspec
      cases b' with
      | ext2 =>
        obtain ⟨hlt, hused, hone⟩ := hspec.opened
        have hclose : (ext2Close (ext2Open s.ext2 path flags).1 h).1.IsOpen h' := by
          rw [← hself]
          exact ho
        obtain ⟨ho', hne⟩ := (ext2Close_isOpen ⟨hlt, hused⟩ hone h').mp hclose
        exact ((hspec.used_iff h').mp ho').resolve_right hne
      | tfs | ramdisk => exact ho

lemma openFile_ok_of_alters {b : Backend} (hfit : s.OpenFits path flags b) (hfree : s.HandleFree b)
    (halters : s.OpenAlters path flags b) :
    ∃ h, ((backendOps b).openFile s path flags).2 = .ok h := by
  cases b with
  | tfs => exact tfsOpen_ok_of_alters hfit.1 hfree halters
  | ramdisk => exact ramdiskOpen_ok_of_alters hfree halters
  | ext2 =>
    obtain ⟨hhealthy, himage⟩ := hfit
    exact ext2Open_ok_of_alters (fun r hr => ⟨(himage r hr).1, (himage r hr).2.wellFormed⟩) hhealthy
      hfree halters

end

/-- All that a call of `vfs_open` takes is free if it alters a file. -/
def Vfs.OpenSupplied (s : Vfs Backend BackendState) (task : Int) (path : CString)
    (flags : UInt32) : Prop :=
  path ≠ [] → ∀ b rel, resolveMount s path = some (b, rel) →
    s.files.OpenFits rel flags b ∧
      (s.files.OpenAlters rel flags b →
        s.files.HandleFree b ∧ allocGlobalFd s ≠ none ∧ allocTaskFd s (currentTaskId task) ≠ none)

lemma vfsOpen_unchanged {s : Vfs Backend BackendState} {task : Int} {path : CString}
    {flags : UInt32} (hok : s.OpenSupplied task path flags) {e : VfsError}
    (herr : (vfsOpen backendOps s task path flags).2 = .error e) :
    s.files.Unchanged (vfsOpen backendOps s task path flags).1.files := by
  unfold vfsOpen at herr ⊢
  by_cases hpath : path = []
  · rw [if_pos hpath]
    exact .refl _
  · rw [if_neg hpath] at herr ⊢
    cases hm : resolveMount s path with
    | none => exact .refl _
    | some r =>
      obtain ⟨b, rel⟩ := r
      obtain ⟨hfit, hfree⟩ := hok hpath b rel hm
      rw [hm] at herr
      dsimp only at herr ⊢
      by_cases halters : s.files.OpenAlters rel flags b
      · -- the call finds all that it needs, and does not fail
        obtain ⟨hhandle, hglobal, hlocal⟩ := hfree halters
        obtain ⟨h, hh⟩ := openFile_ok_of_alters hfit hhandle halters
        obtain ⟨g, hg⟩ := Option.ne_none_iff_exists'.mp hglobal
        obtain ⟨i, hi⟩ := Option.ne_none_iff_exists'.mp hlocal
        have hg' : ∀ f : BackendState, allocGlobalFd { s with files := f } = some g := fun _ => hg
        have hi' : ∀ f : BackendState,
            allocTaskFd { s with files := f } (currentTaskId task) = some i := fun _ => hi
        simp only [hh, hg', hi'] at herr
        cases herr
      · have hundo := openFile_unaltered hfit halters
        split at herr
        · rename_i e' he'
          exact ⟨hundo.files, hundo.error e' he'⟩
        · rename_i h hh
          split at herr
          · cases herr
          · exact ⟨hundo.files.trans (BackendState.close_keepsFiles _ b h), hundo.closed h hh⟩

/-- What can happen to the state of the VFS: its calls on descriptors and through them, and whatever
else changes the backends. -/
inductive VfsCall where
  | descriptors (o : FdOp Backend)
  | handle (task fd : Int) (o : HandleOp)
  | backends (change : BackendState → BackendState)

def vfsCallStep (s : Vfs Backend BackendState) : VfsCall → Vfs Backend BackendState × HandleAnswer
  | .descriptors o => ((fdStep backendOps s o).1, .result (fdStep backendOps s o).2)
  | .handle task fd o => handleStep task fd s o
  | .backends change => ({ s with files := change s.files }, .result (.ok 0))

/-- If the call opens a file, it finds all that it takes. -/
def OpenSupplied (s : Vfs Backend BackendState) : VfsCall → Prop
  | .descriptors (.openFile task path flags) => s.OpenSupplied task path flags
  | _ => True

/-- If the call opens a file and fails, it changes no file and leaves no handle behind. -/
def FailsCleanly (s : Vfs Backend BackendState) : VfsCall → Prop
  | .descriptors (.openFile task path flags) =>
    ∀ e, (vfsOpen backendOps s task path flags).2 = .error e →
      s.files.Unchanged (vfsOpen backendOps s task path flags).1.files
  | _ => True

/-- Along every run of the VFS from `vfs_init` the calls of `vfs_open` that fail change no file, as
long as none of those that alter a file lacks a handle or a descriptor. -/
theorem failedOpens_unchanged (s : Vfs Backend BackendState) (calls : List VfsCall)
    (hrun : Machine.Runs OpenSupplied vfsCallStep (vfsInit s BackendState.init .tfs) calls) :
    Machine.Runs FailsCleanly vfsCallStep (vfsInit s BackendState.init .tfs) calls := by
  refine hrun.mono fun t call hok => ?_
  cases call with
  | descriptors o =>
    cases o with
    | openFile task path flags => exact fun e herr => vfsOpen_unchanged hok herr
    | mount | umount | close | dup | dup2 | pipe | closeAllForTask | cloneTaskFds => trivial
  | handle => trivial
  | backends => trivial

/-- A file is created in the RAM disk `/r`, and one that does not exist is opened. -/
def openMissing : List VfsCall :=
  [.descriptors (.mount [slash, 114] .ramdisk),
    .descriptors (.openFile 0 [slash, 114, slash, 97] vfsOCreat),
    .descriptors (.openFile 0 [slash, 114, slash, 98] vfsORdonly)]

/-- A missing file is opened. -/
theorem failedOpens_unchanged_openMissing :
    Machine.Runs FailsCleanly vfsCallStep (vfsInit (Vfs.blank Backend) BackendState.init .tfs)
      openMissing := by
  apply failedOpens_unchanged
  refine ⟨trivial, fun _ b rel hm => ?_, fun _ b rel hm => ?_, trivial⟩
  · rw [show resolveMount _ _ = some (Backend.ramdisk, [slash, 97]) by decide +kernel] at hm
    cases hm
    exact ⟨trivial, fun _ => ⟨by decide +kernel, by decide +kernel, by decide +kernel⟩⟩
  · rw [show resolveMount _ _ = some (Backend.ramdisk, [slash, 98]) by decide +kernel] at hm
    cases hm
    exact ⟨trivial, fun _ => ⟨by decide +kernel, by decide +kernel, by decide +kernel⟩⟩

/-! ### All descriptors taken -/

/-- The first `k` descriptors of task 0 are taken, and nothing has changed but descriptors. -/
structure Vfs.Filled (s t : Vfs Backend BackendState) (k : Nat) : Prop where
  files : t.files = s.files
  mounts : t.mounts = s.mounts
  first : t.taskFdMap (0, 0) = 0
  entry : (t.fdTable 0).used = true ∧ ∃ o, (t.fdTable 0).ops = some o
  taken : ∀ j : Fin 256, (j : Nat) < k → 0 ≤ t.taskFdMap (0, j)
  free : ∀ j : Fin 256, k ≤ (j : Nat) → t.taskFdMap (0, j) < 0

section

variable {s t : Vfs Backend BackendState} {k : Nat}

/-- One more duplicate of descriptor 0. -/
lemma Vfs.Filled.dup2 (h : s.Filled t k) (hk : 0 < k) (hlt : k < 256) :
    s.Filled (vfsDup2 backendOps t 0 0 k).1 (k + 1) := by
  obtain ⟨hused, o, ho⟩ := h.entry
  have hglobal : openGlobalFd t (taskFdToGlobal t 0 0) = some (0, o) :=
    Vfs.openGlobalFd_eq_some.mpr ⟨h.first, hused, ho⟩
  have hlocal : localFd (k : Int) = some ⟨k, hlt⟩ := by
    rw [localFd, dif_pos (by omega)]
    simp
  have hne : (0 : Int) ≠ k := by omega
  have hfree := h.free ⟨k, hlt⟩ (le_refl k)
  have hstep : (vfsDup2 backendOps t 0 0 k).1 = (t.setTaskFd (0, ⟨k, hlt⟩) 0).setFd 0
      { t.fdTable 0 with refCount := (t.fdTable 0).refCount + 1 } := by
    have htask : currentTaskId 0 = 0 := rfl
    simp only [vfsDup2, htask, hglobal, hlocal, if_neg hne, if_neg (not_le.mpr hfree)]
    rfl
  rw [hstep]
  have hself : Function.update t.taskFdMap (0, ⟨k, hlt⟩) 0 (0, ⟨k, hlt⟩) = 0 :=
    Function.update_self ..
  have hother : ∀ j : Fin 256, j ≠ ⟨k, hlt⟩ →
      Function.update t.taskFdMap (0, ⟨k, hlt⟩) 0 (0, j) = t.taskFdMap (0, j) :=
    fun j hj => Function.update_of_ne (fun he => hj (Prod.mk.inj he).2) _ _
  refine ⟨h.files, h.mounts, ?_, ?_, fun j hj => ?_, fun j hj => ?_⟩
  · exact (hother 0 (Fin.ne_of_val_ne hk.ne)).trans h.first
  · simp only [Vfs.setFd, Vfs.setTaskFd, Function.update_self]
    exact ⟨hused, o, ho⟩
  · by_cases he : j = ⟨k, hlt⟩
    · subst he
      exact hself.ge
    · have hjk : (j : Nat) ≠ k := fun hv => he (Fin.ext hv)
      exact (h.taken j (by omega)).trans_eq (hother j he).symm
  · have he : j ≠ ⟨k, hlt⟩ := by
      rintro rfl
      exact Nat.not_succ_le_self k hj
    exact (hother j he).trans_lt (h.free j (by omega))

lemma Vfs.Filled.run {n : Nat} (h : s.Filled t k) (hk : 0 < k) (hle : k + n ≤ 256) :
    s.Filled (Machine.run vfsCallStep t
      ((List.range' k n).map fun i : Nat => .descriptors (.dup2 0 0 i))) (k + n) := by
  induction n generalizing t k with
  | zero => exact h
  | succ n ih =>
    have hnext := ih (h.dup2 hk (by omega)) (Nat.succ_pos k) (by omega)
    rw [Nat.add_right_comm, Nat.add_assoc] at hnext
    exact hnext

lemma vfsOpen_noDescriptor {task : Int} {path rel : CString} {flags : UInt32} {b : Backend}
    {h : Nat} (hpath : path ≠ []) (hm : resolveMount s path = some (b, rel))
    (hopen : ((backendOps b).openFile s.files rel flags).2 = .ok h)
    (hfull : allocTaskFd s (currentTaskId task) = none) :
    vfsOpen backendOps s task path flags =
      ({ s with files := ((backendOps b).close ((backendOps b).openFile s.files rel flags).1 h).1 },
        .error .noSpace) := by
  have hfull' : ∀ f : BackendState, allocTaskFd { s with files := f } (currentTaskId task) = none :=
    fun _ => hfull
  simp only [vfsOpen, if_neg hpath, hm, hopen, hfull']
  split
  · rename_i hi
    cases hi
  · rfl

end

/-- A file is created in the RAM disk `/r`. -/
def openOne : List VfsCall :=
  [.descriptors (.mount [slash, 114] .ramdisk),
    .descriptors (.openFile 0 [slash, 114, slash, 97] vfsOCreat)]

/-- Duplicates of descriptor 0 take all others. -/
def takeDescriptors : List VfsCall :=
  openOne ++ (List.range' 1 255).map fun i : Nat => .descriptors (.dup2 0 0 i)

/-- A task that has no descriptor left creates a file by a call that fails. -/
theorem failedOpen_creates_file :
    let s := Machine.run vfsCallStep (vfsInit (Vfs.blank Backend) BackendState.init .tfs)
      takeDescriptors
    let r := vfsOpen backendOps s 0 [slash, 114, slash, 98] vfsOCreat
    r.2 = .error .noSpace ∧ s.files.ramdisk.fileAt 1 = none ∧
      r.1.files.ramdisk.fileAt 1 = some ⟨[98], 0, []⟩ ∧ ¬ s.files.Unchanged r.1.files := by
  intro s r
  let t := Machine.run vfsCallStep (vfsInit (Vfs.blank Backend) BackendState.init .tfs) openOne
  have hstart : t.Filled t 1 :=
    ⟨rfl, rfl, by decide +kernel, ⟨by decide +kernel, .file .ramdisk, by decide +kernel⟩,
      by decide +kernel, by decide +kernel⟩
  have hfilled : t.Filled s 256 := by
    have hs : s = Machine.run vfsCallStep t _ := Machine.run_append vfsCallStep _ openOne _
    rw [hs]
    exact hstart.run (n := 255) Nat.one_pos (le_refl 256)
  have hmount : resolveMount t [slash, 114, slash, 98] = some (.ramdisk, [slash, 98]) := by
    decide +kernel
  have hopen : ((backendOps .ramdisk).openFile t.files [slash, 98] vfsOCreat).2 = .ok 1 := by
    decide +kernel
  have hbefore : t.files.ramdisk.fileAt 1 = none := by
    decide +kernel
  have hafter : (((backendOps .ramdisk).close
      ((backendOps .ramdisk).openFile t.files [slash, 98] vfsOCreat).1 1).1).ramdisk.fileAt 1 =
        some ⟨[98], 0, []⟩ := by
    decide +kernel
  have hfull : allocTaskFd s (currentTaskId 0) = none := by
    have htask : currentTaskId 0 = 0 := rfl
    refine List.find?_eq_none.mpr fun j _ => ?_
    simp only [htask, decide_eq_true_eq, not_lt]
    exact hfilled.taken j j.isLt
  have hmount' : resolveMount s [slash, 114, slash, 98] = some (.ramdisk, [slash, 98]) := by
    rw [← hmount]
    simp only [resolveMount, bestMount, hfilled.mounts]
  rw [← hfilled.files] at hopen hbefore hafter
  have hr := vfsOpen_noDescriptor (List.cons_ne_nil _ _) hmount' hopen hfull
  change r = _ at hr
  rw [hr]
  refine ⟨rfl, hbefore, hafter, fun h => ?_⟩
  have hsame := congrFun h.files.ramdisk 1
  rw [hbefore] at hsame
  exact Option.some_ne_none _ (hafter.symm.trans hsame)

end NeuroSpark
