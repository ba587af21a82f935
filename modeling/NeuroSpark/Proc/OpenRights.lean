import NeuroSpark.Proc.Identity
import NeuroSpark.Proc.PathRecords
import NeuroSpark.Vfs.Modes

/-!
# The rights of an open file

The flags of `SYS_OPEN` are decoded three times: for the permission of the path, for the rights of
the descriptor, and by the backend at each read and write. The first two test `VFS_O_WRONLY` before
`VFS_O_RDWR`, which contains it.
-/

namespace NeuroSpark

/-- What `SYS_OPEN` answers: `NS_ERR_PERMISSION`, or what `vfs_open` returns. -/
inductive OpenAnswer where
  | permission
  | result (r : VfsResult)
  deriving DecidableEq

/-- `SYS_OPEN` -/
def Permissions.sysOpen (s : Permissions) (task : Fin 8) (path : CString) (flags : UInt32) :
    Permissions × OpenAnswer :=
  let r := posixCheckPathPermission s.posix task path (Processes.openAccessMask flags)
  match r.2 with
  | .error _ => ({ s with posix := r.1 }, .permission)
  | .ok _ =>
    let v := vfsOpen backendOps s.vfs (task : Nat) path flags
    match v.2 with
    | .error e => (⟨r.1, v.1⟩, .result (.error e))
    | .ok fd => (⟨posixTrackFdOpen r.1 task fd path flags, v.1⟩, .result (.ok fd))

/-- The accesses `read` and `write` are those that the flags ask for. -/
def Accesses (flags : UInt32) (read write : Prop) : Prop :=
  (read ↔ flags &&& vfsORdonly ≠ 0) ∧ (write ↔ flags &&& vfsOWronly ≠ 0)

/-- The accesses that a mask of `posix.c` stands for. -/
def MaskAgrees (flags : UInt32) (mask : Nat) : Prop :=
  Accesses flags (mask &&& posixAccRead ≠ 0) (mask &&& posixAccWrite ≠ 0)

/-- No call through the descriptor is refused for the mode it was opened with. -/
def Vfs.AllowsRead (v : Vfs Backend BackendState) (task fd : Int) : Prop :=
  ∀ size, (vfsRead backendOps v task fd size).2 ≠ .error .perm

def Vfs.AllowsWrite (v : Vfs Backend BackendState) (task fd : Int) : Prop :=
  ∀ buf, (vfsWrite backendOps v task fd buf).2 ≠ .error .perm

/-- The access that was checked, the one that was recorded and the one that the backend allows are
the one that the flags ask for. -/
structure OpenRightsAgree (s : Permissions) (task : Fin 8) (path : CString) (flags : UInt32)
    (fd : Nat) : Prop where
  checked : MaskAgrees flags (Processes.openAccessMask flags)
  recorded : ∃ i, localFd fd = some i ∧
    MaskAgrees flags ((s.sysOpen task path flags).1.posix.fdRights task i)
  allowed : Accesses flags ((s.sysOpen task path flags).1.vfs.AllowsRead (task : Nat) fd)
    ((s.sysOpen task path flags).1.vfs.AllowsWrite (task : Nat) fd)

section

variable {flags : UInt32}

lemma openAccessMask_eq (flags : UInt32) :
    Processes.openAccessMask flags =
      if flags &&& vfsOWronly ≠ 0 then posixAccWrite else posixAccRead := by
  unfold Processes.openAccessMask
  split_ifs with hwrite hboth
  · rfl
  · exact absurd hboth (and_rdwr_ne_of_wronly (not_not.1 hwrite))
  · rfl

/-- One of the two flags is given, and not both. -/
def OneAccess (flags : UInt32) : Prop := flags &&& vfsORdonly ≠ 0 ↔ flags &&& vfsOWronly = 0

lemma maskAgrees_iff {exec : Nat} (hexec : exec = 0 ∨ exec = posixAccExec) :
    MaskAgrees flags (Processes.openAccessMask flags ||| exec) ↔ OneAccess flags := by
  rw [openAccessMask_eq, MaskAgrees, Accesses, OneAccess]
  by_cases hwrite : flags &&& vfsOWronly = 0
  · have hread : (posixAccRead ||| exec) &&& posixAccRead ≠ 0 ∧
        ¬ (posixAccRead ||| exec) &&& posixAccWrite ≠ 0 := by
      rcases hexec with rfl | rfl <;> decide
    rw [if_neg (not_not.2 hwrite)]
    simp only [hread, hwrite, iff_true, true_iff, ne_eq, not_true_eq_false, not_false_eq_true,
      and_true]
  · have hread : ¬ (posixAccWrite ||| exec) &&& posixAccRead ≠ 0 ∧
        (posixAccWrite ||| exec) &&& posixAccWrite ≠ 0 := by
      rcases hexec with rfl | rfl <;> decide
    rw [if_pos hwrite]
    simp only [hread, hwrite, iff_false, false_iff, ne_eq, not_false_eq_true, and_true]

@[simp] lemma fdRights_posixCheckPathPermission (p : Posix) (task : Fin 8) (path : CString)
    (mask : Nat) : (posixCheckPathPermission p task path mask).1.fdRights = p.fdRights := by
  unfold posixCheckPathPermission
  split_ifs
  · rfl
  · dsimp only
    split
    · exact fdRights_metaGetOrCreate p path
    · split_ifs <;> exact fdRights_metaGetOrCreate p path

lemma posixTrackFdOpen_fdRights (p : Posix) (task : Fin 8) {fd : Int} (path : CString)
    (flags : UInt32) {i : Fin 256} (hi : localFd fd = some i) :
    ∃ exec, (exec = 0 ∨ exec = posixAccExec) ∧
      (posixTrackFdOpen p task fd path flags).fdRights = Function.update p.fdRights task
        (Function.update (p.fdRights task) i (Processes.openAccessMask flags ||| exec)) := by
  have hmode : (posixGetMode p path).1.fdRights = p.fdRights := fdRights_metaGetOrCreate p path
  unfold posixTrackFdOpen
  rw [hi]
  rw [Posix.fdRights_setFdRights, hmode]
  cases (posixGetMode p path).2 with
  | none =>
    refine ⟨0, Or.inl rfl, ?_⟩
    rw [Nat.or_zero]
    rfl
  | some mode =>
    dsimp only
    by_cases hexec : mode &&& (posixModeXusr ||| posixModeXgrp ||| posixModeXoth) ≠ 0
    · rw [if_pos hexec]
      exact ⟨posixAccExec, Or.inr rfl, rfl⟩
    · rw [if_neg hexec]
      refine ⟨0, Or.inl rfl, ?_⟩
      rw [Nat.or_zero]
      rfl

/-! ### What the backends allow -/

variable {v : Vfs Backend BackendState} {task fd : Int} {b : Backend} {h : Nat}

lemma readable_iff : ¬ (flags &&& vfsORdonly = 0 ∧ flags &&& vfsORdwr ≠ vfsORdwr) ↔
    flags &&& vfsORdonly ≠ 0 := by
  constructor
  · exact fun hno hread => hno ⟨hread, and_rdwr_ne_of_rdonly hread⟩
  · exact fun hread hno => hread hno.1

lemma writable_iff : ¬ (flags &&& vfsOWronly = 0 ∧ flags &&& vfsORdwr ≠ vfsORdwr) ↔
    flags &&& vfsOWronly ≠ 0 := by
  constructor
  · exact fun hno hwrite => hno ⟨hwrite, and_rdwr_ne_of_wronly hwrite⟩
  · exact fun hwrite hno => hwrite hno.1

lemma tfsWritable_iff : tfsWritable flags ↔
    flags &&& vfsOWronly ≠ 0 ∨ flags &&& vfsORdonly ≠ 0 := by
  rw [tfsWritable, not_and_or, ← ne_eq, ← ne_eq]
  refine or_congr_right' fun hwrite => ?_
  rw [ne_eq, ne_eq, not_iff_not]
  constructor
  · intro hboth
    have heq : flags &&& vfsORdonly = flags &&& vfsORdwr &&& vfsORdonly := by
      rw [UInt32.and_assoc]
      rfl
    rw [heq, hboth, UInt32.zero_and]
  · exact fun hread => and_rdwr_eq_zero hread (not_not.1 hwrite)

lemma refused_iff {α γ : Type} {c : Prop} [Decidable c] {x y : α × Except VfsError γ}
    (hx : x.2 = .error .perm) (hy : y.2 ≠ .error .perm) :
    (if ¬ c then x else y).2 = .error .perm ↔ ¬ c := by
  by_cases hc : c
  · rw [if_neg (not_not.2 hc)]
    exact iff_of_false hy (not_not.2 hc)
  · rw [if_pos hc]
    exact iff_of_true hx hc

lemma tfsRead_refused_iff {s : Tfs} (hopen : s.IsOpen h) (size : Nat) :
    (tfsRead s h size).2 = .error .perm ↔ size ≠ 0 ∧ ¬ tfsReadable (s.handles h).flags := by
  rw [tfsRead, if_neg (not_not.2 hopen)]
  by_cases hsize : size = 0
  · rw [if_pos hsize]
    exact iff_of_false (fun heq => by cases heq) fun hno => hno.1 hsize
  · rw [if_neg hsize, refused_iff rfl, and_iff_right hsize]
    dsimp only
    split <;> intro heq <;> cases heq

lemma tfsWrite_refused_iff {s : Tfs} (hopen : s.IsOpen h) (buf : List UInt8) :
    (tfsWrite s h buf).2 = .error .perm ↔
      buf.length ≠ 0 ∧ ¬ tfsWritable (s.handles h).flags := by
  rw [tfsWrite, if_neg (not_not.2 hopen)]
  by_cases hsize : buf.length = 0
  · rw [if_pos hsize]
    exact iff_of_false (fun heq => by cases heq) fun hno => hno.1 hsize
  · rw [if_neg hsize, refused_iff rfl, and_iff_right hsize]
    dsimp only
    split <;> intro heq <;> cases heq

lemma ramdiskRead_refused_iff {s : Ramdisk} (hopen : s.IsOpen h) (size : Nat) :
    (ramdiskRead s h size).2 = .error .perm ↔ ¬ ramdiskReadable (s.handles h).flags := by
  rw [ramdiskRead, if_neg (not_not.2 hopen)]
  refine refused_iff rfl ?_
  dsimp only
  split <;> intro heq <;> cases heq

lemma ramdiskWrite_refused_iff {s : Ramdisk} (hopen : s.IsOpen h) (buf : List UInt8) :
    (ramdiskWrite s h buf).2 = .error .perm ↔ ¬ ramdiskWritable (s.handles h).flags := by
  rw [ramdiskWrite, if_neg (not_not.2 hopen)]
  refine refused_iff rfl ?_
  dsimp only
  split <;> intro heq <;> cases heq

lemma ext2Read_refused_iff {s : Ext2} (hopen : s.IsOpen h) (size : Nat) :
    (ext2Read s h size).2 = .error .perm ↔ ¬ ext2Readable (s.handles h).flags := by
  rw [ext2Read, if_neg (not_not.2 hopen)]
  dsimp only
  refine refused_iff rfl ?_
  split
  · intro heq
    cases heq
  · split
    · intro heq
      cases heq
    · split <;> intro heq <;> cases heq

lemma ext2Write_refused_iff {s : Ext2} (hopen : s.IsOpen h) (buf : List UInt8) :
    (ext2Write s h buf).2 = .error .perm ↔ ¬ ext2Writable (s.handles h).flags := by
  rw [ext2Write, if_neg (not_not.2 hopen)]
  dsimp only
  refine refused_iff rfl ?_
  split
  · intro heq
    cases heq
  · split
    · intro heq
      cases heq
    · split_ifs <;> intro heq <;> cases heq

lemma Vfs.Serves.allowsRead_iff (hs : v.Serves task fd b h flags) :
    v.AllowsRead task fd ↔ flags &&& vfsORdonly ≠ 0 := by
  unfold Vfs.AllowsRead
  simp only [hs.read]
  cases b with
  | tfs =>
    obtain ⟨hopen, hflags⟩ := hs.openWith
    simp only [backendOps, tfsBackendOps, BackendState.onTfs, ne_eq, tfsRead_refused_iff hopen,
      hflags, tfsReadable, readable_iff]
    exact ⟨fun hall => not_not.1 fun hno => hall 1 ⟨one_ne_zero, hno⟩,
      fun hread _ hno => hno.2 hread⟩
  | ramdisk =>
    obtain ⟨hopen, hflags⟩ := hs.openWith
    simp only [backendOps, ramdiskBackendOps, BackendState.onRamdisk, ne_eq,
      ramdiskRead_refused_iff hopen, hflags, ramdiskReadable, readable_iff, not_not, forall_const]
  | ext2 =>
    obtain ⟨hopen, hflags⟩ := hs.openWith
    simp only [backendOps, ext2BackendOps, BackendState.onExt2, ne_eq,
      ext2Read_refused_iff hopen, hflags, ext2Readable, readable_iff, not_not, forall_const]

lemma Vfs.Serves.allowsWrite_iff (hs : v.Serves task fd b h flags) :
    v.AllowsWrite task fd ↔
      flags &&& vfsOWronly ≠ 0 ∨ b = .tfs ∧ flags &&& vfsORdonly ≠ 0 := by
  unfold Vfs.AllowsWrite
  simp only [hs.write]
  cases b with
  | tfs =>
    obtain ⟨hopen, hflags⟩ := hs.openWith
    rw [and_iff_right rfl, ← tfsWritable_iff]
    simp only [backendOps, tfsBackendOps, BackendState.onTfs, ne_eq, tfsWrite_refused_iff hopen,
      hflags]
    exact ⟨fun hall => not_not.1 fun hno => hall [0] ⟨one_ne_zero, hno⟩,
      fun hwrite _ hno => hno.2 hwrite⟩
  | ramdisk =>
    obtain ⟨hopen, hflags⟩ := hs.openWith
    simp only [backendOps, ramdiskBackendOps, BackendState.onRamdisk, ne_eq,
      ramdiskWrite_refused_iff hopen, hflags, ramdiskWritable, writable_iff, not_not, forall_const,
      reduceCtorEq, false_and, or_false]
  | ext2 =>
    obtain ⟨hopen, hflags⟩ := hs.openWith
    simp only [backendOps, ext2BackendOps, BackendState.onExt2, ne_eq,
      ext2Write_refused_iff hopen, hflags, ext2Writable, writable_iff, not_not, forall_const,
      reduceCtorEq, false_and, or_false]

/-! ### Opening -/

lemma sysOpen_ok {s : Permissions} {task : Fin 8} {path : CString} {fd : Nat}
    (h : (s.sysOpen task path flags).2 = .result (.ok fd)) :
    ∃ i b rel handle exec, localFd (fd : Int) = some i ∧
      resolveMount s.vfs path = some (b, rel) ∧
      (s.sysOpen task path flags).1.vfs.Serves (task : Nat) fd b handle flags ∧
      (s.sysOpen task path flags).1.posix.fdRights task i =
        Processes.openAccessMask flags ||| exec ∧ (exec = 0 ∨ exec = posixAccExec) := by
  unfold Permissions.sysOpen at h ⊢
  cases hcheck : (posixCheckPathPermission s.posix task path
      (Processes.openAccessMask flags)).2 with
  | error e =>
    simp only [hcheck] at h
    cases h
  | ok n =>
    simp only [hcheck] at h ⊢
    generalize hopen : vfsOpen backendOps s.vfs (task : Nat) path flags = r at h ⊢
    obtain ⟨t, res⟩ := r
    cases res with
    | error e => cases h
    | ok fd' =>
      obtain rfl : fd' = fd := Except.ok.inj (OpenAnswer.result.inj h)
      obtain ⟨b, rel, handle, hmount, hserves⟩ := vfsOpen_serves hopen
      obtain ⟨g, hentry, -⟩ := hserves.entry
      have hlocal : ∃ i, localFd (fd' : Int) = some i := by
        rw [Vfs.openGlobalFd_eq_some, taskFdToGlobal] at hentry
        cases hi : localFd (fd' : Int) with
        | none =>
          simp only [hi] at hentry
          exact absurd hentry.1 (by omega)
        | some i => exact ⟨i, rfl⟩
      obtain ⟨i, hi⟩ := hlocal
      obtain ⟨exec, hexec, hrights⟩ := posixTrackFdOpen_fdRights
        (posixCheckPathPermission s.posix task path (Processes.openAccessMask flags)).1
        task path flags hi
      refine ⟨i, b, rel, handle, exec, hi, hmount, hserves, ?_, hexec⟩
      rw [hrights, Function.update_self, Function.update_self]

/-- The three decodings agree if and only if the flags ask for one access, which is not to read a
file of TFS. -/
theorem openRights_agree_iff {s : Permissions} {task : Fin 8} {path : CString} {fd : Nat}
    (h : (s.sysOpen task path flags).2 = .result (.ok fd)) :
    OpenRightsAgree s task path flags fd ↔
      OneAccess flags ∧
        (flags &&& vfsORdonly ≠ 0 → ∀ rel, resolveMount s.vfs path ≠ some (.tfs, rel)) := by
  obtain ⟨i, b, rel, handle, exec, hi, hmount, hserves, hrights, hexec⟩ := sysOpen_ok h
  have hchecked : MaskAgrees flags (Processes.openAccessMask flags) ↔ OneAccess flags := by
    have hmask := @maskAgrees_iff flags 0 (Or.inl rfl)
    rwa [Nat.or_zero] at hmask
  have htfs : (∀ rel', resolveMount s.vfs path ≠ some (.tfs, rel')) ↔ b ≠ .tfs := by
    rw [hmount]
    constructor
    · rintro hno rfl
      exact hno rel rfl
    · rintro hno rel' heq
      exact hno (Prod.mk.inj (Option.some.inj heq)).1
  have hallowed : Accesses flags ((s.sysOpen task path flags).1.vfs.AllowsRead (task : Nat) fd)
      ((s.sysOpen task path flags).1.vfs.AllowsWrite (task : Nat) fd) ↔
      (b = .tfs → flags &&& vfsORdonly ≠ 0 → flags &&& vfsOWronly ≠ 0) := by
    rw [Accesses, hserves.allowsRead_iff, hserves.allowsWrite_iff, and_iff_right Iff.rfl,
      or_iff_left_iff_imp, and_imp]
  rw [htfs]
  constructor
  · rintro ⟨hone, -, hagree⟩
    have hone := hchecked.1 hone
    refine ⟨hone, fun hread hb => ?_⟩
    exact hallowed.1 hagree hb hread (hone.1 hread)
  · rintro ⟨hone, hno⟩
    refine ⟨hchecked.2 hone, ⟨i, hi, ?_⟩, hallowed.2 fun hb hread => absurd hb (hno hread)⟩
    rw [hrights]
    exact (maskAgrees_iff hexec).2 hone

end

/-- Task 0 is a user of group 0, and the RAM disk is mounted at `/r`. -/
def userPermissions : Permissions :=
  ⟨Posix.booted.setId 0 ⟨1, 0, 1, 0, 0, 0, 0⟩, modeStart⟩

/-- A file of the RAM disk is made for reading. -/
theorem openRights_agree_iff_rdonly :
    (userPermissions.sysOpen 0 [slash, 114, slash, 97] (vfsORdonly ||| vfsOCreat)).2 =
        .result (.ok 0) ∧
      (OpenRightsAgree userPermissions 0 [slash, 114, slash, 97] (vfsORdonly ||| vfsOCreat) 0 ↔
        OneAccess (vfsORdonly ||| vfsOCreat) ∧
          ((vfsORdonly ||| vfsOCreat) &&& vfsORdonly ≠ 0 → ∀ rel,
            resolveMount userPermissions.vfs [slash, 114, slash, 97] ≠ some (.tfs, rel))) := by
  have hok : (userPermissions.sysOpen 0 [slash, 114, slash, 97] (vfsORdonly ||| vfsOCreat)).2 =
      .result (.ok 0) := by decide +kernel
  exact ⟨hok, openRights_agree_iff hok⟩

/-- A user opens a file for both, and only writing is checked. -/
theorem openRights_differ :
    (userPermissions.posix.id 0).euid ≠ 0 ∧
      (userPermissions.sysOpen 0 [slash, 114, slash, 97] (vfsORdwr ||| vfsOCreat)).2 =
        .result (.ok 0) ∧
      ¬ OpenRightsAgree userPermissions 0 [slash, 114, slash, 97] (vfsORdwr ||| vfsOCreat) 0 := by
  refine ⟨by decide, by decide +kernel, fun h => ?_⟩
  have hread : (vfsORdwr ||| vfsOCreat) &&& vfsORdonly ≠ 0 := by decide
  exact h.checked.1.2 hread (by decide)

end NeuroSpark
