import NeuroSpark.Vfs.Backends

/-!
# Modes and owners in the backends

`vfs_chmod` and `vfs_chown` hand a change on to the backend of the path. TFS keeps neither modes nor
owners and refuses, the RAM disk accepts everything and keeps nothing, and ext2 writes the inode.
-/

namespace NeuroSpark

def ext2SIfmt : Nat := 0xF000

/-- What `ext2_chmod` and `ext2_chown` share: the inode of a path is read, edited and written. -/
def ext2EditInode (s : Ext2) (path : CString) (edit : Ext2Inode → Ext2Inode) : Ext2 × VfsResult :=
  match resolvePath s path with
  | none => (s, .error .notFound)
  | some r =>
    if r.inode = 0 then (s, .error .notFound)
    else
      match readInode s r.inode with
      | none => (s, .error .io)
      | some inode =>
        let w := writeInode s r.inode (edit inode)
        if !w.2 then (w.1, .error .io) else (w.1, .ok 0)

def ext2Chmod (s : Ext2) (path : CString) (mode : BitVec 32) : Ext2 × VfsResult :=
  ext2EditInode s path fun inode =>
    inode.setMode ((inode.mode &&& ext2SIfmt) ||| (mode.toNat &&& 0o777))

/-- The fields `uid` and `gid` of an inode have 16 bits. -/
def ext2Chown (s : Ext2) (path : CString) (uid gid : BitVec 32) : Ext2 × VfsResult :=
  ext2EditInode s path fun inode =>
    (inode.setLe16 2 (uid.toNat % 65536)).setLe16 24 (gid.toNat % 65536)

def backendChmod (s : BackendState) (path : CString) (mode : BitVec 32) :
    Backend → BackendState × VfsResult
  | .tfs => (s, .error .perm)
  | .ramdisk => (s, .ok 0)
  | .ext2 => s.onExt2 (ext2Chmod s.ext2 path mode)

def backendChown (s : BackendState) (path : CString) (uid gid : BitVec 32) :
    Backend → BackendState × VfsResult
  | .tfs => (s, .error .perm)
  | .ramdisk => (s, .ok 0)
  | .ext2 => s.onExt2 (ext2Chown s.ext2 path uid gid)

/-- A change is made by the backend of the path. -/
def vfsChange (v : Vfs Backend BackendState) (path : CString)
    (change : BackendState → CString → Backend → BackendState × VfsResult) :
    Vfs Backend BackendState × VfsResult :=
  match resolveMount v path with
  | none => (v, .error .notFound)
  | some (b, relPath) =>
    let r := change v.files relPath b
    ({ v with files := r.1 }, r.2)

def vfsChmodPath (v : Vfs Backend BackendState) (path : CString) (mode : BitVec 32) :
    Vfs Backend BackendState × VfsResult :=
  vfsChange v path fun s relPath b => backendChmod s relPath mode b

def vfsChownPath (v : Vfs Backend BackendState) (path : CString) (uid gid : BitVec 32) :
    Vfs Backend BackendState × VfsResult :=
  vfsChange v path fun s relPath b => backendChown s relPath uid gid b

/-- The path names an inode that can be read. -/
def Ext2.HasInode (s : Ext2) (path : CString) : Prop :=
  ∃ r, resolvePath s path = some r ∧ r.inode ≠ 0 ∧ (readInode s r.inode).isSome = true

/-- The backend of the path changes modes and owners there. -/
def Vfs.TakesAttributes (v : Vfs Backend BackendState) (path : CString) : Prop :=
  match resolveMount v path with
  | some (.ramdisk, _) => True
  | some (.ext2, relPath) => v.files.ext2.HasInode relPath
  | _ => False

lemma writeInode_of_readInode {s : Ext2} {inodeNum : Nat} {inode : Ext2Inode}
    (h : readInode s inodeNum = some inode) (inode' : Ext2Inode) :
    (writeInode s inodeNum inode').2 = true := by
  unfold readInode at h
  unfold writeInode
  cases hplace : inodePlace s inodeNum with
  | none =>
    rw [hplace] at h
    cases h
  | some place =>
    rw [hplace] at h
    obtain ⟨raw, hraw, -⟩ := Option.map_eq_some_iff.1 h
    dsimp only
    rw [hraw]

/-- A call that answers with success or an error, by whether `P` holds. -/
def SucceedsIf (P : Prop) (result : VfsResult) : Prop :=
  P ∧ result = .ok 0 ∨ ¬ P ∧ ∃ e, result = .error e

lemma ext2EditInode_succeeds (s : Ext2) (path : CString) (edit : Ext2Inode → Ext2Inode) :
    SucceedsIf (s.HasInode path) (ext2EditInode s path edit).2 := by
  unfold ext2EditInode Ext2.HasInode SucceedsIf
  cases hresolve : resolvePath s path with
  | none => simp
  | some r =>
    by_cases hzero : r.inode = 0
    · simp [hzero]
    cases hread : readInode s r.inode with
    | none => simp [hzero, hread]
    | some inode => simp [hzero, hread, writeInode_of_readInode hread]

section

variable (v : Vfs Backend BackendState) (path : CString)

lemma vfsChange_succeeds {change : BackendState → CString → Backend → BackendState × VfsResult}
    (htfs : ∀ relPath, (change v.files relPath .tfs).2 = .error .perm)
    (hramdisk : ∀ relPath, (change v.files relPath .ramdisk).2 = .ok 0)
    (hext2 : ∀ relPath, SucceedsIf (v.files.ext2.HasInode relPath)
      (change v.files relPath .ext2).2) :
    SucceedsIf (v.TakesAttributes path) (vfsChange v path change).2 := by
  unfold vfsChange Vfs.TakesAttributes
  match resolveMount v path with
  | none => exact Or.inr ⟨id, _, rfl⟩
  | some (.tfs, relPath) => exact Or.inr ⟨id, _, htfs relPath⟩
  | some (.ramdisk, relPath) => exact Or.inl ⟨trivial, hramdisk relPath⟩
  | some (.ext2, relPath) => exact hext2 relPath

lemma vfsChmodPath_succeeds (mode : BitVec 32) :
    SucceedsIf (v.TakesAttributes path) (vfsChmodPath v path mode).2 :=
  vfsChange_succeeds v path (fun _ => rfl) (fun _ => rfl) fun _ => ext2EditInode_succeeds _ _ _

lemma vfsChownPath_succeeds (uid gid : BitVec 32) :
    SucceedsIf (v.TakesAttributes path) (vfsChownPath v path uid gid).2 :=
  vfsChange_succeeds v path (fun _ => rfl) (fun _ => rfl) fun _ => ext2EditInode_succeeds _ _ _

end

end NeuroSpark
