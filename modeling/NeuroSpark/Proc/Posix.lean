import NeuroSpark.Vfs.Model

/-!
# Identities and permissions

`posix.c` keeps, next to the file systems, who each task is (`g_id`), who may do what with each path
(`g_path_meta`, at most 128 paths, entered when they are first asked for), and what each task may do
with each of its descriptors (`g_fd_rights`). A path is a string here: two spellings of a path are
two paths.
-/

namespace NeuroSpark

open Function (update update_self)

/-- `POSIX_PATH_MAX`, less the terminating NUL. -/
def posixPathMax : Nat := 63

def posixModeXusr : Nat := 0o100
def posixModeWusr : Nat := 0o200
def posixModeRusr : Nat := 0o400
def posixModeXgrp : Nat := 0o010
def posixModeWgrp : Nat := 0o020
def posixModeRgrp : Nat := 0o040
def posixModeXoth : Nat := 0o001
def posixModeWoth : Nat := 0o002
def posixModeRoth : Nat := 0o004
def posixModeSetuid : Nat := 0o4000
def posixModeSetgid : Nat := 0o2000

def posixAccExec : Nat := 1
def posixAccWrite : Nat := 2
def posixAccRead : Nat := 4

structure PosixPathMeta where
  used : Bool
  path : CString
  uid : Nat
  gid : Nat
  mode : Nat
  path_fits : path.length ≤ posixPathMax
  deriving DecidableEq

structure PosixIdentity where
  uid : Nat
  gid : Nat
  euid : Nat
  egid : Nat
  sid : Int
  pgid : Int
  tty : Int
  deriving DecidableEq

/-- The tables of `posix.c` that decide about access. -/
structure Posix where
  pathMeta : Fin 128 → PosixPathMeta
  id : Fin 8 → PosixIdentity
  fdRights : Fin 8 → Fin 256 → Nat

def Posix.setMeta (s : Posix) (i : Fin 128) (m : PosixPathMeta) : Posix :=
  { s with pathMeta := Function.update s.pathMeta i m }

def Posix.setId (s : Posix) (task : Fin 8) (x : PosixIdentity) : Posix :=
  { s with id := Function.update s.id task x }

def Posix.setFdRights (s : Posix) (task : Fin 8) (rights : Fin 256 → Nat) : Posix :=
  { s with fdRights := Function.update s.fdRights task rights }

def metaFind (s : Posix) (path : CString) : Option (Fin 128) :=
  if path = [] then none
  else (List.finRange 128).find? fun i => (s.pathMeta i).used && (s.pathMeta i).path == path

/-- `.bin` and `.elf`. -/
def executableSuffixes : List CString := [[46, 98, 105, 110], [46, 101, 108, 102]]

/-- The record of a path that is entered for the first time. -/
def PosixPathMeta.fresh (path : CString) : PosixPathMeta where
  used := true
  path := path.take posixPathMax
  uid := 0
  gid := 0
  mode := if executableSuffixes.any fun suffix => suffix.isSuffixOf path then 0o755 else 0o664
  path_fits := List.length_take_le ..

def metaGetOrCreate (s : Posix) (path : CString) : Posix × Option (Fin 128) :=
  match metaFind s path with
  | some i => (s, some i)
  | none =>
    match (List.finRange 128).find? fun i => !(s.pathMeta i).used with
    | some i => (s.setMeta i (PosixPathMeta.fresh path), some i)
    | none => (s, none)

def PosixIdentity.root (task : Fin 8) : PosixIdentity := ⟨0, 0, 0, 0, task, task, 0⟩

/-- Without a parent the task is root. -/
def posixTaskInit (s : Posix) (task : Fin 8) (parent : Option (Fin 8)) : Posix :=
  let x := match parent with
    | some p => s.id p
    | none => PosixIdentity.root task
  (s.setId task x).setFdRights task fun _ => 0

def posixTaskOnFork (s : Posix) (parent child : Fin 8) : Posix := s.setId child (s.id parent)

def posixSetUid (s : Posix) (task : Fin 8) (uid : Nat) : Posix × VfsResult :=
  let x := s.id task
  if x.euid = 0 then (s.setId task { x with uid := uid, euid := uid }, .ok 0)
  else if uid = x.uid ∨ uid = x.euid then (s.setId task { x with euid := uid }, .ok 0)
  else (s, .error .perm)

def posixSetGid (s : Posix) (task : Fin 8) (gid : Nat) : Posix × VfsResult :=
  let x := s.id task
  if x.euid = 0 then (s.setId task { x with gid := gid, egid := gid }, .ok 0)
  else if gid = x.gid ∨ gid = x.egid then (s.setId task { x with egid := gid }, .ok 0)
  else (s, .error .perm)

/-- The access bits that a class of users gets from a mode. -/
def accessBits (mode r w x : Nat) : Nat :=
  (if mode &&& r ≠ 0 then posixAccRead else 0) ||| (if mode &&& w ≠ 0 then posixAccWrite else 0) |||
    (if mode &&& x ≠ 0 then posixAccExec else 0)

def permissionBitsForIdentity (m : PosixPathMeta) (x : PosixIdentity) : Nat :=
  if x.euid = 0 then posixAccRead ||| posixAccWrite ||| posixAccExec
  else if x.euid = m.uid then accessBits m.mode posixModeRusr posixModeWusr posixModeXusr
  else if x.egid = m.gid then accessBits m.mode posixModeRgrp posixModeWgrp posixModeXgrp
  else accessBits m.mode posixModeRoth posixModeWoth posixModeXoth

def posixCheckPathPermission (s : Posix) (task : Fin 8) (path : CString) (accessMask : Nat) :
    Posix × VfsResult :=
  if path = [] then (s, .error .invalidArg)
  else
    let r := metaGetOrCreate s path
    match r.2 with
    | none => (r.1, .error .noSpace)
    | some i =>
      if accessMask &&& permissionBitsForIdentity (r.1.pathMeta i) (r.1.id task) ≠ accessMask then
        (r.1, .error .perm)
      else (r.1, .ok 0)

/-- The decision of `posix_path_chmod`; the VFS is called when it is `.ok`. -/
def posixPathChmod (s : Posix) (task : Fin 8) (path : CString) (mode : Nat) : Posix × VfsResult :=
  let r := metaGetOrCreate s path
  match r.2 with
  | none => (r.1, .error .noSpace)
  | some i =>
    let m := r.1.pathMeta i
    let x := r.1.id task
    if x.euid ≠ 0 ∧ x.euid ≠ m.uid then (r.1, .error .perm)
    else (r.1.setMeta i { m with mode := mode &&& 0o7777 }, .ok 0)

/-- The decision of `posix_path_chown`; the VFS is called when it is `.ok`. -/
def posixPathChown (s : Posix) (task : Fin 8) (path : CString) (uid gid : Nat) :
    Posix × VfsResult :=
  if (s.id task).euid ≠ 0 then (s, .error .perm)
  else
    let r := metaGetOrCreate s path
    match r.2 with
    | none => (r.1, .error .noSpace)
    | some i => (r.1.setMeta i { r.1.pathMeta i with uid := uid, gid := gid }, .ok 0)

def posixGetMode (s : Posix) (path : CString) : Posix × Option Nat :=
  let r := metaGetOrCreate s path
  (r.1, r.2.map fun i => (r.1.pathMeta i).mode)

def posixGetOwner (s : Posix) (path : CString) : Posix × Option (Nat × Nat) :=
  let r := metaGetOrCreate s path
  (r.1, r.2.map fun i => ((r.1.pathMeta i).uid, (r.1.pathMeta i).gid))

def posixTrackFdOpen (s : Posix) (task : Fin 8) (fd : Int) (path : CString) (flags : UInt32) :
    Posix :=
  match localFd fd with
  | none => s
  | some i =>
    let rights :=
      if flags &&& vfsOWronly ≠ 0 then posixAccWrite
      else if flags &&& vfsORdwr = vfsORdwr then posixAccRead ||| posixAccWrite
      else posixAccRead
    let r := posixGetMode s path
    let rights := match r.2 with
      | some mode =>
        if mode &&& (posixModeXusr ||| posixModeXgrp ||| posixModeXoth) ≠ 0 then
          rights ||| posixAccExec
        else rights
      | none => rights
    r.1.setFdRights task (Function.update (r.1.fdRights task) i rights)

def posixTrackFdClose (s : Posix) (task : Fin 8) (fd : Int) : Posix :=
  match localFd fd with
  | none => s
  | some i => s.setFdRights task (Function.update (s.fdRights task) i 0)

def posixCloneFdRights (s : Posix) (src dst : Fin 8) : Posix := s.setFdRights dst (s.fdRights src)

def posixCheckFdPermission (s : Posix) (task : Fin 8) (fd : Int) (accessMask : Nat) : VfsResult :=
  match localFd fd with
  | none => .error .invalidArg
  | some i =>
    if (s.id task).euid = 0 then .ok 0
    else if accessMask &&& s.fdRights task i ≠ accessMask then .error .perm
    else .ok 0

def posixClearTaskFds (s : Posix) (task : Fin 8) : Posix := s.setFdRights task fun _ => 0

/-- A program with the set-uid bit runs as its owner. The mode and the owner are looked up one after
the other. -/
def posixApplyExecCredentials (s : Posix) (task : Fin 8) (path : CString) : Posix :=
  if path = [] then s
  else
    let r := posixGetMode s path
    match r.2 with
    | none => r.1
    | some mode =>
      let r := posixGetOwner r.1 path
      match r.2 with
      | none => r.1
      | some (ownerUid, ownerGid) =>
        let x := r.1.id task
        let x := if mode &&& posixModeSetuid ≠ 0 then { x with euid := ownerUid } else x
        let x := if mode &&& posixModeSetgid ≠ 0 then { x with egid := ownerGid } else x
        r.1.setId task x

section

variable (s : Posix)

@[simp] lemma Posix.id_setMeta (i : Fin 128) (m : PosixPathMeta) : (s.setMeta i m).id = s.id := rfl

@[simp] lemma Posix.id_setFdRights (task : Fin 8) (rights : Fin 256 → Nat) :
    (s.setFdRights task rights).id = s.id := rfl

@[simp] lemma Posix.id_setId (task : Fin 8) (x : PosixIdentity) :
    (s.setId task x).id = update s.id task x := rfl

@[simp] lemma Posix.fdRights_setMeta (i : Fin 128) (m : PosixPathMeta) :
    (s.setMeta i m).fdRights = s.fdRights := rfl

@[simp] lemma Posix.fdRights_setFdRights (task : Fin 8) (rights : Fin 256 → Nat) :
    (s.setFdRights task rights).fdRights = update s.fdRights task rights := rfl

@[simp] lemma Posix.fdRights_setId (task : Fin 8) (x : PosixIdentity) :
    (s.setId task x).fdRights = s.fdRights := rfl

@[simp] lemma id_metaGetOrCreate (path : CString) : (metaGetOrCreate s path).1.id = s.id := by
  unfold metaGetOrCreate
  split
  · rfl
  · split <;> rfl

@[simp] lemma fdRights_metaGetOrCreate (path : CString) :
    (metaGetOrCreate s path).1.fdRights = s.fdRights := by
  unfold metaGetOrCreate
  split
  · rfl
  · split <;> rfl

@[simp] lemma id_posixCheckPathPermission (task : Fin 8) (path : CString)
    (accessMask : Nat) : (posixCheckPathPermission s task path accessMask).1.id = s.id := by
  unfold posixCheckPathPermission
  split_ifs
  · rfl
  · dsimp only
    split
    · simp
    · split_ifs <;> simp

@[simp] lemma id_posixPathChmod (task : Fin 8) (path : CString) (mode : Nat) :
    (posixPathChmod s task path mode).1.id = s.id := by
  unfold posixPathChmod
  dsimp only
  split
  · simp
  · split_ifs <;> simp

@[simp] lemma id_posixPathChown (task : Fin 8) (path : CString) (uid gid : Nat) :
    (posixPathChown s task path uid gid).1.id = s.id := by
  unfold posixPathChown
  split_ifs
  · rfl
  · dsimp only
    split <;> simp

@[simp] lemma id_posixTrackFdOpen (task : Fin 8) (fd : Int) (path : CString)
    (flags : UInt32) : (posixTrackFdOpen s task fd path flags).id = s.id := by
  unfold posixTrackFdOpen
  split
  · rfl
  · simp [posixGetMode]

@[simp] lemma id_posixTrackFdClose (task : Fin 8) (fd : Int) :
    (posixTrackFdClose s task fd).id = s.id := by
  unfold posixTrackFdClose
  split <;> rfl

/-- `t` has the records of `s`, and perhaps new ones. -/
def Posix.Extends (t s : Posix) : Prop :=
  ∀ i, t.pathMeta i = s.pathMeta i ∨
    (s.pathMeta i).used = false ∧ (t.pathMeta i).mode &&& posixModeSetuid = 0

lemma Posix.Extends.refl : s.Extends s := fun _ => Or.inl rfl

end

lemma PosixPathMeta.fresh_mode (path : CString) :
    (PosixPathMeta.fresh path).mode &&& posixModeSetuid = 0 := by
  unfold PosixPathMeta.fresh
  dsimp only
  split_ifs <;> decide

lemma metaGetOrCreate_extends (s : Posix) (path : CString) :
    (metaGetOrCreate s path).1.Extends s := by
  unfold metaGetOrCreate
  split
  · exact Posix.Extends.refl s
  · split
    · rename_i i hi
      intro j
      by_cases hj : j = i
      · subst hj
        right
        simpa [Posix.setMeta, PosixPathMeta.fresh_mode] using List.find?_some hi
      · simp [Posix.setMeta, hj]
    · exact Posix.Extends.refl s

lemma Posix.Extends.metaFind {s t : Posix} (h : t.Extends s) {path : CString} {i : Fin 128}
    (hi : metaFind t path = some i) (hmode : (t.pathMeta i).mode &&& posixModeSetuid ≠ 0) :
    metaFind s path = some i ∧ t.pathMeta i = s.pathMeta i := by
  have hsame : t.pathMeta i = s.pathMeta i := (h i).resolve_right fun hnew => hmode hnew.2
  unfold NeuroSpark.metaFind at hi ⊢
  split_ifs at hi ⊢ with hpath
  refine ⟨?_, hsame⟩
  rw [← Fin.find?_eq_find?_finRange, Fin.find?_eq_some_iff] at hi ⊢
  refine ⟨by rw [← hsame]; exact hi.1, fun j hj => ?_⟩
  have hno := hi.2 j hj
  rcases h j with hjsame | ⟨hunused, -⟩
  · rwa [hjsame] at hno
  · simp [hunused]

/-- The path has a record with the set-uid bit and owner root. -/
def Posix.SetuidRoot (s : Posix) (path : CString) : Prop :=
  ∃ i, metaFind s path = some i ∧ (s.pathMeta i).mode &&& posixModeSetuid ≠ 0 ∧
    (s.pathMeta i).uid = 0

lemma metaFind_path {s : Posix} {path : CString} {i : Fin 128} (h : metaFind s path = some i) :
    (s.pathMeta i).path = path := by
  unfold metaFind at h
  split_ifs at h
  have := List.find?_some h
  simp only [Bool.and_eq_true, beq_iff_eq] at this
  exact this.2

/-- The effective user after the credentials of a program are applied is the one from before, or the
recorded owner of a program with the set-uid bit. -/
lemma euid_posixApplyExecCredentials (s : Posix) (task : Fin 8) (path : CString) :
    ((posixApplyExecCredentials s task path).id task).uid = (s.id task).uid ∧
      (((posixApplyExecCredentials s task path).id task).euid = (s.id task).euid ∨
        ∃ i, metaFind s path = some i ∧ (s.pathMeta i).mode &&& posixModeSetuid ≠ 0 ∧
          ((posixApplyExecCredentials s task path).id task).euid = (s.pathMeta i).uid) := by
  by_cases hpath : path = []
  · simp [posixApplyExecCredentials, hpath]
  cases hfind : metaFind s path with
  | some i =>
    have hget : metaGetOrCreate s path = (s, some i) := by simp [metaGetOrCreate, hfind]
    simp only [posixApplyExecCredentials, if_neg hpath, posixGetMode, posixGetOwner, hget,
      Option.map_some, Posix.id_setId, update_self]
    refine ⟨by split_ifs <;> rfl, ?_⟩
    by_cases hmode : (s.pathMeta i).mode &&& posixModeSetuid ≠ 0
    · right
      refine ⟨i, rfl, hmode, ?_⟩
      split_ifs <;> rfl
    · left
      split_ifs <;> rfl
  | none =>
    have hfresh : ∀ i, (metaGetOrCreate s path).2 = some i →
        ((metaGetOrCreate s path).1.pathMeta i).mode &&& posixModeSetuid = 0 := by
      intro i hi
      simp only [metaGetOrCreate, hfind] at hi ⊢
      split at hi
      · cases hi
        simpa [Posix.setMeta] using PosixPathMeta.fresh_mode path
      · cases hi
    simp only [posixApplyExecCredentials, if_neg hpath, posixGetMode, posixGetOwner]
    cases hi : (metaGetOrCreate s path).2 with
    | none => simp
    | some i =>
      simp only [Option.map_some, hfresh i hi]
      cases (metaGetOrCreate (metaGetOrCreate s path).1 path).2 with
      | none => simp
      | some j =>
        simp only [Option.map_some, Posix.id_setId, update_self, ne_eq, not_true_eq_false,
          if_false]
        split_ifs <;> simp

lemma id_posixApplyExecCredentials_of_ne (s : Posix) {task task' : Fin 8} (path : CString)
    (hne : task' ≠ task) : (posixApplyExecCredentials s task path).id task' = s.id task' := by
  unfold posixApplyExecCredentials
  split_ifs
  · rfl
  · simp only [posixGetMode, posixGetOwner]
    cases (metaGetOrCreate s path).2 with
    | none => simp
    | some i =>
      cases (metaGetOrCreate (metaGetOrCreate s path).1 path).2 with
      | none => simp
      | some j => simp [hne]

end NeuroSpark
