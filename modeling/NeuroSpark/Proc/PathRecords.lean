import NeuroSpark.Proc.Posix
import NeuroSpark.Vfs.Attributes

/-!
# Changing modes and owners

`posix_path_chmod` and `posix_path_chown` change the record of a path and then ask the VFS, which
may refuse. A record holds 63 characters of its path, so that a longer path is entered again each
time it is looked up, and so is the empty one.
-/

namespace NeuroSpark

/-- The tables of `posix.c` and `vfs.c`. -/
structure Permissions where
  posix : Posix
  vfs : Vfs Backend BackendState

/-- `posix_path_chmod` with its call of `vfs_chmod`. -/
def Permissions.pathChmod (s : Permissions) (task : Fin 8) (path : CString) (mode : BitVec 32) :
    Permissions × VfsResult :=
  let r := posixPathChmod s.posix task path mode.toNat
  match r.2 with
  | .error e => ({ s with posix := r.1 }, .error e)
  | .ok _ =>
    let v := vfsChmodPath s.vfs path mode
    (⟨r.1, v.1⟩, v.2)

/-- `posix_path_chown` with its call of `vfs_chown`. -/
def Permissions.pathChown (s : Permissions) (task : Fin 8) (path : CString) (uid gid : BitVec 32) :
    Permissions × VfsResult :=
  let r := posixPathChown s.posix task path uid.toNat gid.toNat
  match r.2 with
  | .error e => ({ s with posix := r.1 }, .error e)
  | .ok _ =>
    let v := vfsChownPath s.vfs path uid gid
    (⟨r.1, v.1⟩, v.2)

/-- Mode and owner of a path are reported alike. -/
def SameReport (s t : Posix) (path : CString) : Prop :=
  (posixGetMode t path).2 = (posixGetMode s path).2 ∧
    (posixGetOwner t path).2 = (posixGetOwner s path).2

/-- A change of a mode is exact, and one that fails changes nothing. -/
structure ChmodExact (s : Permissions) (task : Fin 8) (path : CString) (mode : BitVec 32) :
    Prop where
  changed : (s.pathChmod task path mode).2 = .ok 0 →
    (posixGetMode (s.pathChmod task path mode).1.posix path).2 = some (mode.toNat &&& 0o7777)
  others : (s.pathChmod task path mode).2 = .ok 0 →
    ∀ q, q ≠ path → SameReport s.posix (s.pathChmod task path mode).1.posix q
  failed : (∃ e, (s.pathChmod task path mode).2 = .error e) →
    ∀ q, SameReport s.posix (s.pathChmod task path mode).1.posix q

/-- A change of an owner that fails changes nothing. -/
def ChownAtomic (s : Permissions) (task : Fin 8) (path : CString) (uid gid : BitVec 32) : Prop :=
  (∃ e, (s.pathChown task path uid gid).2 = .error e) →
    ∀ q, SameReport s.posix (s.pathChown task path uid gid).1.posix q

/-- What the record of a path says. -/
structure PathRights where
  uid : Nat
  gid : Nat
  mode : Nat
  deriving DecidableEq

def PosixPathMeta.rights (m : PosixPathMeta) : PathRights := ⟨m.uid, m.gid, m.mode⟩

/-- What is said of a path that has no record yet. -/
def PathRights.fresh (path : CString) : PathRights := (PosixPathMeta.fresh path).rights

/-- A record of the path can be found again. -/
def Recordable (path : CString) : Prop := path ≠ [] ∧ path.length ≤ posixPathMax

instance (path : CString) : Decidable (Recordable path) := inferInstanceAs (Decidable (_ ∧ _))

def Posix.HasRoom (s : Posix) : Prop := ∃ i, (s.pathMeta i).used = false

instance (s : Posix) : Decidable s.HasRoom :=
  inferInstanceAs (Decidable (∃ i, (s.pathMeta i).used = false))

def Posix.HasRoomForTwo (s : Posix) : Prop :=
  ∃ i j, i ≠ j ∧ (s.pathMeta i).used = false ∧ (s.pathMeta j).used = false

/-- What is on record for a path, or would be if it were looked up. -/
def Posix.rightsOf (s : Posix) (path : CString) : Option PathRights :=
  match metaFind s path with
  | some i => some (s.pathMeta i).rights
  | none => if s.HasRoom then some (PathRights.fresh path) else none

/-- A new record that says `r` changes nothing for other paths: there is room for one more, and
where the path is cut off, what is left of it has a record before the new one or the same rights. -/
def Posix.NewRecordApart (s : Posix) (path : CString) (r : PathRights) : Prop :=
  s.HasRoomForTwo ∧
    (posixPathMax < path.length →
      (∃ j, metaFind s (path.take posixPathMax) = some j ∧
        ∀ i, (s.pathMeta i).used = false → j < i) ∨
      s.rightsOf (path.take posixPathMax) = some r)

/-- For a path with a record: the VFS accepts the change, or the task may not make it, or it is
none. For one without: the table is full, or the new record disturbs no other path, and the change
is found again just when the VFS accepts it. -/
def Permissions.ChmodFaithful (s : Permissions) (task : Fin 8) (path : CString)
    (mode : BitVec 32) : Prop :=
  let euid := (s.posix.id task).euid
  let mode := mode.toNat &&& 0o7777
  match metaFind s.posix path with
  | some i =>
    s.vfs.TakesAttributes path ∨ (euid ≠ 0 ∧ euid ≠ (s.posix.pathMeta i).uid) ∨
      (s.posix.pathMeta i).mode = mode
  | none =>
    ¬ s.posix.HasRoom ∨
      s.posix.NewRecordApart path
          (if euid = 0 then { PathRights.fresh path with mode := mode }
            else PathRights.fresh path) ∧
        (euid = 0 → (s.vfs.TakesAttributes path ↔ Recordable path) ∨
          (PathRights.fresh path).mode = mode)

/-- The task may not change owners, or the VFS accepts the change, or nothing changes. -/
def Permissions.ChownFaithful (s : Permissions) (task : Fin 8) (path : CString)
    (uid gid : BitVec 32) : Prop :=
  (s.posix.id task).euid ≠ 0 ∨ s.vfs.TakesAttributes path ∨
    match metaFind s.posix path with
    | some i => (s.posix.pathMeta i).uid = uid.toNat ∧ (s.posix.pathMeta i).gid = gid.toNat
    | none =>
      ¬ s.posix.HasRoom ∨
        s.posix.NewRecordApart path
            { PathRights.fresh path with uid := uid.toNat, gid := gid.toNat } ∧
          (Recordable path → uid = 0 ∧ gid = 0)

section

variable {s : Posix} {path q : CString} {i : Fin 128} {m : PosixPathMeta}

/-! ### Looking up -/

lemma metaFind_eq_some_iff :
    metaFind s path = some i ↔
      path ≠ [] ∧ (s.pathMeta i).used = true ∧ (s.pathMeta i).path = path ∧
        ∀ j < i, (s.pathMeta j).used = true → (s.pathMeta j).path ≠ path := by
  unfold metaFind
  split_ifs with hpath
  · exact iff_of_false not_false fun h => h.1 hpath
  · rw [← Fin.find?_eq_find?_finRange, Fin.find?_eq_some_iff]
    simp [hpath, and_assoc]

lemma metaFind_eq_none_iff :
    metaFind s path = none ↔
      path = [] ∨ ∀ j, (s.pathMeta j).used = true → (s.pathMeta j).path ≠ path := by
  unfold metaFind
  split_ifs with hpath
  · exact iff_of_true rfl (Or.inl hpath)
  · simp [hpath]

lemma metaFind_long (h : posixPathMax < path.length) : metaFind s path = none :=
  metaFind_eq_none_iff.2 <| Or.inr fun j _ heq =>
    not_lt.2 (s.pathMeta j).path_fits (heq ▸ h)

lemma metaFind_not_recordable (h : ¬ Recordable path) : metaFind s path = none := by
  by_cases hpath : path = []
  · exact metaFind_eq_none_iff.2 (Or.inl hpath)
  · exact metaFind_long (not_le.1 fun hle => h ⟨hpath, hle⟩)

lemma rightsOf_of_some (h : metaFind s path = some i) :
    s.rightsOf path = some (s.pathMeta i).rights := by
  rw [Posix.rightsOf, h]

lemma rightsOf_of_none (h : metaFind s path = none) (hroom : s.HasRoom) :
    s.rightsOf path = some (PathRights.fresh path) := by
  rw [Posix.rightsOf, h]
  exact if_pos hroom

lemma rightsOf_of_full (h : metaFind s path = none) (hroom : ¬ s.HasRoom) :
    s.rightsOf path = none := by
  rw [Posix.rightsOf, h]
  exact if_neg hroom

lemma metaGetOrCreate_cases (s : Posix) (path : CString) :
    (∃ i, metaFind s path = some i ∧ metaGetOrCreate s path = (s, some i)) ∨
      metaFind s path = none ∧ ¬ s.HasRoom ∧ metaGetOrCreate s path = (s, none) ∨
      metaFind s path = none ∧ ∃ i, (s.pathMeta i).used = false ∧
        (∀ j, (s.pathMeta j).used = false → i ≤ j) ∧
        metaGetOrCreate s path = (s.setMeta i (PosixPathMeta.fresh path), some i) := by
  unfold metaGetOrCreate
  cases hfind : metaFind s path with
  | some i => exact Or.inl ⟨i, rfl, rfl⟩
  | none =>
    cases hfree : (List.finRange 128).find? fun i => !(s.pathMeta i).used with
    | none =>
      refine Or.inr (Or.inl ⟨rfl, ?_, rfl⟩)
      rintro ⟨i, hi⟩
      have := List.find?_eq_none.1 hfree i (List.mem_finRange i)
      simp [hi] at this
    | some i =>
      rw [← Fin.find?_eq_find?_finRange, Fin.find?_eq_some_iff] at hfree
      refine Or.inr (Or.inr ⟨rfl, i, by simpa using hfree.1, fun j hj => ?_, rfl⟩)
      by_contra hlt
      have := hfree.2 j (not_le.1 hlt)
      simp [hj] at this

lemma rightsOf_eq (s : Posix) (path : CString) :
    ((metaGetOrCreate s path).2.map fun i => ((metaGetOrCreate s path).1.pathMeta i).rights) =
      s.rightsOf path := by
  rcases metaGetOrCreate_cases s path with
    ⟨i, hfind, hget⟩ | ⟨hfind, hroom, hget⟩ | ⟨hfind, i, hi, -, hget⟩
  · rw [hget, rightsOf_of_some hfind]
    rfl
  · rw [hget, rightsOf_of_full hfind hroom]
    rfl
  · rw [hget, rightsOf_of_none hfind ⟨i, hi⟩]
    simp [Posix.setMeta, PathRights.fresh]

lemma posixGetMode_eq (s : Posix) (path : CString) :
    (posixGetMode s path).2 = (s.rightsOf path).map (·.mode) := by
  rw [← rightsOf_eq, Option.map_map]
  rfl

lemma posixGetOwner_eq (s : Posix) (path : CString) :
    (posixGetOwner s path).2 = (s.rightsOf path).map fun r => (r.uid, r.gid) := by
  rw [← rightsOf_eq, Option.map_map]
  rfl

lemma sameReport_iff {t : Posix} : SameReport s t path ↔ t.rightsOf path = s.rightsOf path := by
  rw [SameReport, posixGetMode_eq, posixGetMode_eq, posixGetOwner_eq, posixGetOwner_eq]
  constructor
  · rintro ⟨hmode, howner⟩
    cases ht : t.rightsOf path with
    | none =>
      rw [ht] at hmode
      rw [Option.map_eq_none_iff.1 hmode.symm]
    | some r =>
      rw [ht] at hmode howner
      obtain ⟨r', hr', hmode⟩ := Option.map_eq_some_iff.1 hmode.symm
      rw [hr', Option.map_some, Option.map_some, Option.some.injEq] at howner
      obtain ⟨huid, hgid⟩ := Prod.mk.inj howner
      rw [hr', Option.some.injEq]
      obtain ⟨uid, gid, mode⟩ := r
      obtain ⟨uid', gid', mode'⟩ := r'
      simp only at huid hgid hmode
      rw [huid, hgid, hmode]
  · intro h
    rw [h]
    exact ⟨rfl, rfl⟩

lemma pathMeta_setMeta (s : Posix) (i : Fin 128) (m : PosixPathMeta) :
    (s.setMeta i m).pathMeta i = m := by
  simp [Posix.setMeta]

lemma pathMeta_setMeta_ne (s : Posix) {j : Fin 128} (m : PosixPathMeta) (h : j ≠ i) :
    (s.setMeta i m).pathMeta j = s.pathMeta j := by
  simp [Posix.setMeta, h]

lemma setMeta_setMeta (s : Posix) (i : Fin 128) (m m' : PosixPathMeta) :
    (s.setMeta i m).setMeta i m' = s.setMeta i m' := by
  rw [Posix.setMeta, Posix.setMeta, Function.update_idem]
  rfl

lemma metaFind_setMeta (hused : m.used = (s.pathMeta i).used) (hpath : m.path = (s.pathMeta i).path)
    (q : CString) :
    metaFind (s.setMeta i m) q = metaFind s q := by
  have hkeep : ∀ j, ((s.setMeta i m).pathMeta j).used = (s.pathMeta j).used ∧
      ((s.setMeta i m).pathMeta j).path = (s.pathMeta j).path := by
    intro j
    by_cases hj : j = i
    · subst hj
      rw [pathMeta_setMeta]
      exact ⟨hused, hpath⟩
    · rw [pathMeta_setMeta_ne s m hj]
      exact ⟨rfl, rfl⟩
  unfold metaFind
  simp only [hkeep]

lemma hasRoom_setMeta (hused : m.used = (s.pathMeta i).used) :
    (s.setMeta i m).HasRoom ↔ s.HasRoom := by
  refine exists_congr fun j => ?_
  by_cases hj : j = i
  · subst hj
    rw [pathMeta_setMeta, hused]
  · rw [pathMeta_setMeta_ne s m hj]

lemma rightsOf_setMeta_ne (hfind : metaFind s path = some i) (hused : m.used = true)
    (hpath : m.path = path) (hq : q ≠ path) : (s.setMeta i m).rightsOf q = s.rightsOf q := by
  obtain ⟨-, hused', hpath', -⟩ := metaFind_eq_some_iff.1 hfind
  have hsame := @metaFind_setMeta s i m (hused.trans hused'.symm) (hpath.trans hpath'.symm) q
  cases hold : metaFind s q with
  | some j =>
    have hji : j ≠ i := by
      rintro rfl
      exact hq ((metaFind_eq_some_iff.1 hold).2.2.1.symm.trans hpath')
    rw [rightsOf_of_some (hsame.trans hold), rightsOf_of_some hold, pathMeta_setMeta_ne s m hji]
  | none =>
    by_cases hroom : s.HasRoom
    · rw [rightsOf_of_none hold hroom, rightsOf_of_none (hsame.trans hold)
        ((hasRoom_setMeta (hused.trans hused'.symm)).2 hroom)]
    · rw [rightsOf_of_full hold hroom, rightsOf_of_full (hsame.trans hold)
        (mt (hasRoom_setMeta (hused.trans hused'.symm)).1 hroom)]

lemma rightsOf_setMeta_self (hfind : metaFind s path = some i) (hused : m.used = true)
    (hpath : m.path = path) : (s.setMeta i m).rightsOf path = some m.rights := by
  obtain ⟨-, hused', hpath', -⟩ := metaFind_eq_some_iff.1 hfind
  have hsame := @metaFind_setMeta s i m (hused.trans hused'.symm) (hpath.trans hpath'.symm) path
  rw [rightsOf_of_some (hsame.trans hfind), pathMeta_setMeta]

/-! ### A record is made -/

section

variable (hfree : (s.pathMeta i).used = false) (hused : m.used = true)
include hfree hused

lemma metaFind_new : (m.path ≠ [] → (∀ j, metaFind s m.path = some j → i ≤ j) →
        metaFind (s.setMeta i m) m.path = some i) ∧
      (∀ j, metaFind s m.path = some j → j < i → metaFind (s.setMeta i m) m.path = some j) ∧
      ∀ q, q ≠ m.path → metaFind (s.setMeta i m) q = metaFind s q := by
  have hne : ∀ {j}, (s.pathMeta j).used = true → j ≠ i := by
    rintro j hj rfl
    rw [hj] at hfree
    cases hfree
  refine ⟨fun hpath hlast => ?_, fun j hj hlt => ?_, fun q hq => ?_⟩
  · refine metaFind_eq_some_iff.2 ⟨hpath, by rwa [pathMeta_setMeta], by rw [pathMeta_setMeta],
      fun j hj hused' heq => ?_⟩
    rw [pathMeta_setMeta_ne s m hj.ne] at hused' heq
    cases hold : metaFind s m.path with
    | some k =>
      obtain ⟨-, -, -, hfirst⟩ := metaFind_eq_some_iff.1 hold
      exact hfirst j (hj.trans_le (hlast k hold)) hused' heq
    | none => exact (metaFind_eq_none_iff.1 hold).elim hpath fun hno => hno j hused' heq
  · obtain ⟨hpath, hused', heq, hfirst⟩ := metaFind_eq_some_iff.1 hj
    refine metaFind_eq_some_iff.2 ⟨hpath, ?_, ?_, fun k hk hused'' => ?_⟩
    · rwa [pathMeta_setMeta_ne s m hlt.ne]
    · rwa [pathMeta_setMeta_ne s m hlt.ne]
    · rw [pathMeta_setMeta_ne s m (hk.trans hlt).ne] at hused'' ⊢
      exact hfirst k hk hused''
  · unfold metaFind
    split_ifs with hempty
    · rfl
    refine congrArg (fun f => (List.finRange 128).find? f) (funext fun j => ?_)
    by_cases hj : j = i
    · subst hj
      rw [pathMeta_setMeta, hfree, Bool.false_and, Bool.and_eq_false_iff]
      exact Or.inr (beq_false_of_ne fun heq => hq heq.symm)
    · rw [pathMeta_setMeta_ne s m hj]

lemma hasRoom_new : (s.setMeta i m).HasRoom ↔ s.HasRoomForTwo := by
  constructor
  · rintro ⟨j, hj⟩
    have hne : j ≠ i := by
      rintro rfl
      rw [pathMeta_setMeta, hused] at hj
      cases hj
    rw [pathMeta_setMeta_ne s m hne] at hj
    exact ⟨j, i, hne, hj, hfree⟩
  · rintro ⟨j, k, hne, hj, hk⟩
    by_cases hji : j = i
    · refine ⟨k, ?_⟩
      rwa [pathMeta_setMeta_ne s m (hji ▸ hne.symm)]
    · refine ⟨j, ?_⟩
      rwa [pathMeta_setMeta_ne s m hji]

lemma rightsOf_new_none (hq : metaFind s q = none) (hq' : metaFind (s.setMeta i m) q = none) :
    (s.setMeta i m).rightsOf q = s.rightsOf q ↔ s.HasRoomForTwo := by
  rw [rightsOf_of_none hq ⟨i, hfree⟩]
  by_cases hroom : s.HasRoomForTwo
  · exact iff_of_true (rightsOf_of_none hq' ((hasRoom_new hfree hused).2 hroom)) hroom
  · rw [rightsOf_of_full hq' (mt (hasRoom_new hfree hused).1 hroom)]
    exact iff_of_false (Option.some_ne_none _).symm hroom

lemma rightsOf_new_ne (hroom : s.HasRoomForTwo) (hq : q ≠ m.path) :
    (s.setMeta i m).rightsOf q = s.rightsOf q := by
  have hfind := (metaFind_new hfree hused).2.2 q hq
  cases hold : metaFind s q with
  | none => exact (rightsOf_new_none hfree hused hold (hfind.trans hold)).2 hroom
  | some j =>
    have hji : j ≠ i := by
      rintro rfl
      rw [(metaFind_eq_some_iff.1 hold).2.1] at hfree
      cases hfree
    rw [rightsOf_of_some (hfind.trans hold), rightsOf_of_some hold, pathMeta_setMeta_ne s m hji]

lemma rightsOf_new_self (hpath : m.path ≠ []) :
    (s.setMeta i m).rightsOf m.path = s.rightsOf m.path ↔
      (∃ j, metaFind s m.path = some j ∧ j < i) ∨ s.rightsOf m.path = some m.rights := by
  obtain ⟨hlast, hearlier, -⟩ := metaFind_new hfree hused
  by_cases hold : ∃ j, metaFind s m.path = some j ∧ j < i
  · obtain ⟨j, hj, hlt⟩ := hold
    refine iff_of_true ?_ (Or.inl ⟨j, hj, hlt⟩)
    rw [rightsOf_of_some (hearlier j hj hlt), rightsOf_of_some hj, pathMeta_setMeta_ne s m hlt.ne]
  · rw [or_iff_right hold]
    have hfind := hlast hpath fun j hj => not_lt.1 fun hlt => hold ⟨j, hj, hlt⟩
    rw [rightsOf_of_some hfind, pathMeta_setMeta]
    exact eq_comm

end

lemma exists_long_ne (path path' : CString) : ∃ q, q ≠ path ∧ q ≠ path' ∧ ¬ Recordable q := by
  refine ⟨List.replicate (posixPathMax + path.length + path'.length + 1) 1, ?_, ?_, ?_⟩
  · intro heq
    have := congrArg List.length heq
    rw [List.length_replicate] at this
    omega
  · intro heq
    have := congrArg List.length heq
    rw [List.length_replicate] at this
    omega
  · rintro ⟨-, hle⟩
    rw [List.length_replicate] at hle
    omega

lemma new_others_iff (hfree : (s.pathMeta i).used = false)
    (hfirst : ∀ j, (s.pathMeta j).used = false → i ≤ j) (hused : m.used = true)
    (hpath : m.path = path.take posixPathMax) :
    (∀ q, q ≠ path → SameReport s (s.setMeta i m) q) ↔ s.NewRecordApart path m.rights := by
  have hbefore : ∀ j, (∀ k, (s.pathMeta k).used = false → j < k) ↔ j < i := fun j =>
    ⟨fun h => h i hfree, fun h k hk => h.trans_le (hfirst k hk)⟩
  simp only [sameReport_iff, Posix.NewRecordApart, hbefore, ← hpath]
  constructor
  · intro h
    refine ⟨?_, fun hlong => ?_⟩
    · obtain ⟨q, hq, hq', hlong⟩ := exists_long_ne path m.path
      have hold := metaFind_not_recordable (s := s) hlong
      exact (rightsOf_new_none hfree hused hold (metaFind_not_recordable hlong)).1 (h q hq)
    · have hlength : m.path.length = posixPathMax := by
        rw [hpath, List.length_take]
        exact min_eq_left hlong.le
      refine (rightsOf_new_self hfree hused ?_).1 (h m.path ?_)
      · rintro heq
        rw [heq] at hlength
        cases hlength
      · rintro heq
        rw [heq] at hlength
        omega
  · rintro ⟨hroom, hself⟩ q hq
    by_cases hqm : q = m.path
    · subst hqm
      have hlong : posixPathMax < path.length := by
        by_contra hshort
        rw [List.take_of_length_le (not_lt.1 hshort)] at hpath
        exact hq hpath
      refine (rightsOf_new_self hfree hused ?_).2 (hself hlong)
      intro heq
      rw [heq] at hpath
      have := congrArg List.length hpath
      rw [List.length_take, min_eq_left hlong.le] at this
      cases this
    · exact rightsOf_new_ne hfree hused hroom hqm

lemma new_self (hnone : metaFind s path = none) (hfree : (s.pathMeta i).used = false)
    (hused : m.used = true) (hpath : m.path = path.take posixPathMax) (hroom : s.HasRoomForTwo) :
    (s.setMeta i m).rightsOf path =
      some (if Recordable path then m.rights else PathRights.fresh path) := by
  split_ifs with hrec
  · rw [List.take_of_length_le hrec.2] at hpath
    have hfind := (metaFind_new hfree hused).1 (hpath ▸ hrec.1) fun j hj => by
      rw [hpath, hnone] at hj
      cases hj
    rw [hpath] at hfind
    rw [rightsOf_of_some hfind, pathMeta_setMeta]
  · exact rightsOf_of_none (metaFind_not_recordable hrec) ((hasRoom_new hfree hused).2 hroom)

/-! ### The calls -/

variable {t : Permissions} {task : Fin 8} {mode uid gid : BitVec 32} {s' : Posix}

lemma pathChmod_of_get (task : Fin 8) (mode : BitVec 32)
    (hget : metaGetOrCreate t.posix path = (s', some i)) :
    ((s'.id task).euid ≠ 0 ∧ (s'.id task).euid ≠ (s'.pathMeta i).uid →
        t.pathChmod task path mode = ({ t with posix := s' }, .error .perm)) ∧
      (¬ ((s'.id task).euid ≠ 0 ∧ (s'.id task).euid ≠ (s'.pathMeta i).uid) → ∃ m,
        m.used = (s'.pathMeta i).used ∧ m.path = (s'.pathMeta i).path ∧
          m.rights = { (s'.pathMeta i).rights with mode := mode.toNat &&& 0o7777 } ∧
          (t.pathChmod task path mode).1.posix = s'.setMeta i m ∧
          (t.pathChmod task path mode).2 = (vfsChmodPath t.vfs path mode).2) := by
  constructor
  · intro hrefused
    simp only [Permissions.pathChmod, posixPathChmod, hget, if_pos hrefused]
  · intro hallowed
    refine ⟨{ s'.pathMeta i with mode := mode.toNat &&& 0o7777 }, rfl, rfl, rfl, ?_⟩
    simp only [Permissions.pathChmod, posixPathChmod, hget, if_neg hallowed, and_self]

lemma pathChown_of_get (uid gid : BitVec 32) (hroot : (t.posix.id task).euid = 0)
    (hget : metaGetOrCreate t.posix path = (s', some i)) :
    ∃ m, m.used = (s'.pathMeta i).used ∧ m.path = (s'.pathMeta i).path ∧
      m.rights = { (s'.pathMeta i).rights with uid := uid.toNat, gid := gid.toNat } ∧
      (t.pathChown task path uid gid).1.posix = s'.setMeta i m ∧
      (t.pathChown task path uid gid).2 = (vfsChownPath t.vfs path uid gid).2 := by
  refine ⟨{ s'.pathMeta i with uid := uid.toNat, gid := gid.toNat }, rfl, rfl, rfl, ?_⟩
  simp only [Permissions.pathChown, posixPathChown, hroot, ne_eq, not_true_eq_false, if_false, hget,
    and_self]

/-- What has to hold, with the outcome of the call and the table it leaves. -/
lemma chmodExact_iff {u : Posix} {P : Prop} (hposix : (t.pathChmod task path mode).1.posix = u)
    (hresult : SucceedsIf P (t.pathChmod task path mode).2) :
    ChmodExact t task path mode ↔
      (∀ q, q ≠ path → SameReport t.posix u q) ∧
        (P → (posixGetMode u path).2 = some (mode.toNat &&& 0o7777)) ∧
        (¬ P → SameReport t.posix u path) := by
  rcases hresult with ⟨hP, hok⟩ | ⟨hP, e, herror⟩
  · constructor
    · rintro ⟨hchanged, hothers, -⟩
      rw [hposix] at hchanged hothers
      exact ⟨hothers hok, fun _ => hchanged hok, fun hnot => absurd hP hnot⟩
    · rintro ⟨hothers, hchanged, -⟩
      refine ⟨fun _ => ?_, fun _ => ?_, ?_⟩
      · rw [hposix]
        exact hchanged hP
      · rwa [hposix]
      · rintro ⟨e, herror⟩
        rw [hok] at herror
        cases herror
  · constructor
    · rintro ⟨-, -, hfailed⟩
      rw [hposix] at hfailed
      exact ⟨fun q _ => hfailed ⟨e, herror⟩ q, fun h => absurd h hP,
        fun _ => hfailed ⟨e, herror⟩ path⟩
    · rintro ⟨hothers, -, hfailed⟩
      refine ⟨fun hok => ?_, fun hok => ?_, fun _ q => ?_⟩
      · rw [herror] at hok
        cases hok
      · rw [herror] at hok
        cases hok
      · rw [hposix]
        by_cases hq : q = path
        · exact hq ▸ hfailed hP
        · exact hothers q hq

lemma chownAtomic_iff {u : Posix} {P : Prop} (hposix : (t.pathChown task path uid gid).1.posix = u)
    (hresult : SucceedsIf P (t.pathChown task path uid gid).2) :
    ChownAtomic t task path uid gid ↔ (¬ P → ∀ q, SameReport t.posix u q) := by
  unfold ChownAtomic
  rw [hposix]
  rcases hresult with ⟨hP, hok⟩ | ⟨hP, e, herror⟩
  · refine iff_of_true ?_ fun hnot => absurd hP hnot
    rintro ⟨e, herror⟩
    rw [hok] at herror
    cases herror
  · exact ⟨fun h _ => h ⟨e, herror⟩, fun h _ => h hP⟩

lemma SameReport.refl (s : Posix) (path : CString) : SameReport s s path := ⟨rfl, rfl⟩

lemma chmodExact_found (hfind : metaFind t.posix path = some i) :
    ChmodExact t task path mode ↔
      t.vfs.TakesAttributes path ∨
        ((t.posix.id task).euid ≠ 0 ∧ (t.posix.id task).euid ≠ (t.posix.pathMeta i).uid) ∨
        (t.posix.pathMeta i).mode = mode.toNat &&& 0o7777 := by
  have hget : metaGetOrCreate t.posix path = (t.posix, some i) := by
    rw [metaGetOrCreate, hfind]
  obtain ⟨hrefused, hallowed⟩ := pathChmod_of_get task mode hget
  by_cases hmay : (t.posix.id task).euid ≠ 0 ∧ (t.posix.id task).euid ≠ (t.posix.pathMeta i).uid
  · refine iff_of_true ?_ (Or.inr (Or.inl hmay))
    have hrefused := hrefused hmay
    refine (chmodExact_iff (P := False) (u := t.posix) (by rw [hrefused])
      (Or.inr ⟨id, _, by rw [hrefused]⟩)).2
        ⟨fun q _ => SameReport.refl _ q, False.elim, fun _ => ?_⟩
    exact SameReport.refl _ path
  · obtain ⟨m, hused, hpath, hrights, hposix, hresult⟩ := hallowed hmay
    obtain ⟨-, hused', hpath', -⟩ := metaFind_eq_some_iff.1 hfind
    rw [hused'] at hused
    rw [hpath'] at hpath
    have hsame : some m.rights = some (t.posix.pathMeta i).rights ↔
        (t.posix.pathMeta i).mode = mode.toNat &&& 0o7777 := by
      rw [hrights, Option.some.injEq, PosixPathMeta.rights, PathRights.mk.injEq]
      simp [eq_comm]
    rw [chmodExact_iff hposix (hresult ▸ vfsChmodPath_succeeds t.vfs path mode), or_iff_right hmay,
      and_iff_right fun q hq => sameReport_iff.2 (rightsOf_setMeta_ne hfind hused hpath hq),
      posixGetMode_eq, sameReport_iff, rightsOf_setMeta_self hfind hused hpath,
      rightsOf_of_some hfind, hsame, hrights]
    simp only [Option.map_some, implies_true, true_and]
    tauto

lemma chmodExact_new (hnone : metaFind t.posix path = none) :
    ChmodExact t task path mode ↔
      ¬ t.posix.HasRoom ∨
        t.posix.NewRecordApart path
            (if (t.posix.id task).euid = 0 then
                { PathRights.fresh path with mode := mode.toNat &&& 0o7777 }
              else PathRights.fresh path) ∧
          ((t.posix.id task).euid = 0 → (t.vfs.TakesAttributes path ↔ Recordable path) ∨
            (PathRights.fresh path).mode = mode.toNat &&& 0o7777) := by
  rcases metaGetOrCreate_cases t.posix path with
    ⟨i, hfind, -⟩ | ⟨-, hfull, hget⟩ | ⟨-, i, hfree, hfirst, hget⟩
  · rw [hnone] at hfind
    cases hfind
  · -- the table is full
    have hcall : t.pathChmod task path mode = (t, .error .noSpace) := by
      simp only [Permissions.pathChmod, posixPathChmod, hget]
    refine iff_of_true ?_ (Or.inl hfull)
    refine (chmodExact_iff (P := False) (u := t.posix) (by rw [hcall])
      (Or.inr ⟨id, _, by rw [hcall]⟩)).2 ⟨fun q _ => SameReport.refl _ q, False.elim, fun _ => ?_⟩
    exact SameReport.refl _ path
  have hroom : t.posix.HasRoom := ⟨i, hfree⟩
  rw [or_iff_right (not_not.2 hroom)]
  obtain ⟨hrefused, hallowed⟩ := pathChmod_of_get task mode hget
  rw [pathMeta_setMeta, Posix.id_setMeta] at hallowed hrefused
  by_cases hroot : (t.posix.id task).euid = 0
  · obtain ⟨m, hused, hpath, hrights, hposix, hresult⟩ := hallowed fun h => h.1 hroot
    rw [setMeta_setMeta] at hposix
    rw [chmodExact_iff hposix (hresult ▸ vfsChmodPath_succeeds t.vfs path mode), if_pos hroot,
      new_others_iff hfree hfirst hused hpath, hrights]
    refine and_congr_right fun hapart => ?_
    have hsame : m.rights = PathRights.fresh path ↔
        (PathRights.fresh path).mode = mode.toNat &&& 0o7777 := by
      rw [hrights, PathRights.fresh, PosixPathMeta.rights, PathRights.mk.injEq]
      simp [eq_comm]
    have hmode : m.rights.mode = mode.toNat &&& 0o7777 := by rw [hrights]
    rw [posixGetMode_eq, sameReport_iff, new_self hnone hfree hused hpath hapart.1,
      rightsOf_of_none hnone hroom]
    by_cases hrec : Recordable path
    · simp only [hrec, if_true, Option.map_some, hmode, implies_true, true_and, Option.some.injEq,
        hsame, hroot, forall_const, iff_true]
      tauto
    · simp only [hrec, if_false, Option.map_some, Option.some.injEq, implies_true, and_true, hroot,
        forall_const, iff_false]
      tauto
  · have hrefused := hrefused ⟨hroot, hroot⟩
    rw [chmodExact_iff (P := False) (u := t.posix.setMeta i (PosixPathMeta.fresh path))
      (by rw [hrefused]) (Or.inr ⟨id, _, by rw [hrefused]⟩), if_neg hroot,
      new_others_iff hfree hfirst rfl rfl]
    refine and_congr_right fun hapart => ?_
    rw [sameReport_iff, new_self hnone hfree rfl rfl hapart.1, rightsOf_of_none hnone hroom]
    simp [hroot, PathRights.fresh]

lemma chownAtomic_same (h : (t.pathChown task path uid gid).1.posix = t.posix) :
    ChownAtomic t task path uid gid := by
  rintro - q
  rw [h]
  exact SameReport.refl _ q

lemma chownAtomic_found (hroot : (t.posix.id task).euid = 0)
    (hfind : metaFind t.posix path = some i) :
    ChownAtomic t task path uid gid ↔
      t.vfs.TakesAttributes path ∨
        (t.posix.pathMeta i).uid = uid.toNat ∧ (t.posix.pathMeta i).gid = gid.toNat := by
  have hget : metaGetOrCreate t.posix path = (t.posix, some i) := by
    rw [metaGetOrCreate, hfind]
  obtain ⟨m, hused, hpath, hrights, hposix, hresult⟩ :=
    pathChown_of_get uid gid hroot hget
  obtain ⟨-, hused', hpath', -⟩ := metaFind_eq_some_iff.1 hfind
  rw [hused'] at hused
  rw [hpath'] at hpath
  rw [chownAtomic_iff hposix (hresult ▸ vfsChownPath_succeeds t.vfs path uid gid),
    or_iff_not_imp_left]
  refine imp_congr_right fun _ => ?_
  have hself : SameReport t.posix (t.posix.setMeta i m) path ↔
      (t.posix.pathMeta i).uid = uid.toNat ∧ (t.posix.pathMeta i).gid = gid.toNat := by
    rw [sameReport_iff, rightsOf_setMeta_self hfind hused hpath, rightsOf_of_some hfind,
      Option.some.injEq, hrights, PosixPathMeta.rights, PathRights.mk.injEq]
    simp [eq_comm]
  rw [← hself]
  constructor
  · intro h
    exact h path
  · intro h q
    by_cases hq : q = path
    · exact hq ▸ h
    · exact sameReport_iff.2 (rightsOf_setMeta_ne hfind hused hpath hq)

lemma chownAtomic_new (hroot : (t.posix.id task).euid = 0) (hnone : metaFind t.posix path = none) :
    ChownAtomic t task path uid gid ↔
      t.vfs.TakesAttributes path ∨ ¬ t.posix.HasRoom ∨
        t.posix.NewRecordApart path
            { PathRights.fresh path with uid := uid.toNat, gid := gid.toNat } ∧
          (Recordable path → uid = 0 ∧ gid = 0) := by
  rcases metaGetOrCreate_cases t.posix path with
    ⟨i, hfind, -⟩ | ⟨-, hfull, hget⟩ | ⟨-, i, hfree, hfirst, hget⟩
  · rw [hnone] at hfind
    cases hfind
  · refine iff_of_true (chownAtomic_same ?_) (Or.inr (Or.inl hfull))
    simp only [Permissions.pathChown, posixPathChown, hroot, ne_eq, not_true_eq_false, if_false,
      hget]
  have hroom : t.posix.HasRoom := ⟨i, hfree⟩
  rw [or_iff_right (not_not.2 hroom)]
  obtain ⟨m, hused, hpath, hrights, hposix, hresult⟩ :=
    pathChown_of_get uid gid hroot hget
  rw [pathMeta_setMeta] at hused hpath hrights
  rw [setMeta_setMeta] at hposix
  rw [chownAtomic_iff hposix (hresult ▸ vfsChownPath_succeeds t.vfs path uid gid),
    or_iff_not_imp_left]
  refine imp_congr_right fun _ => ?_
  have hothers := new_others_iff hfree hfirst hused hpath
  rw [hrights] at hothers
  have hself : t.posix.HasRoomForTwo → (SameReport t.posix (t.posix.setMeta i m) path ↔
      (Recordable path → uid = 0 ∧ gid = 0)) := by
    intro htwo
    rw [sameReport_iff, new_self hnone hfree hused hpath htwo, rightsOf_of_none hnone hroom,
      Option.some.injEq]
    by_cases hrec : Recordable path
    · rw [if_pos hrec, hrights, PathRights.fresh, PosixPathMeta.rights, PathRights.mk.injEq]
      simp [hrec, PosixPathMeta.fresh, BitVec.toNat_eq]
    · rw [if_neg hrec]
      exact iff_of_true rfl fun h => absurd h hrec
  rw [PathRights.fresh, ← hothers]
  constructor
  · intro h
    have hapart := fun q (_ : q ≠ path) => h q
    exact ⟨hapart, (hself (hothers.1 hapart).1).1 (h path)⟩
  · rintro ⟨hapart, hpath⟩ q
    by_cases hq : q = path
    · exact hq ▸ (hself (hothers.1 hapart).1).2 hpath
    · exact hapart q hq

/-- A change of a mode is exact, and one of a mode or an owner that fails changes nothing, if and
only if the table and the VFS are as they should be for it. -/
theorem chmod_chown_exact_iff (t : Permissions) (task : Fin 8) (path : CString)
    (mode uid gid : BitVec 32) :
    (ChmodExact t task path mode ↔ t.ChmodFaithful task path mode) ∧
      (ChownAtomic t task path uid gid ↔ t.ChownFaithful task path uid gid) := by
  constructor
  · unfold Permissions.ChmodFaithful
    cases hfind : metaFind t.posix path with
    | some i => exact chmodExact_found hfind
    | none => exact chmodExact_new hfind
  · unfold Permissions.ChownFaithful
    by_cases hroot : (t.posix.id task).euid = 0
    · rw [or_iff_right (not_not.2 hroot)]
      cases hfind : metaFind t.posix path with
      | some i => exact chownAtomic_found hroot hfind
      | none => exact chownAtomic_new hroot hfind
    · refine iff_of_true (chownAtomic_same ?_) (Or.inl hroot)
      simp only [Permissions.pathChown, posixPathChown, ne_eq, hroot, not_false_eq_true, if_true]

end

/-- No path has a record, and all tasks are root. -/
def Posix.booted : Posix where
  pathMeta _ := ⟨false, [], 0, 0, 0, Nat.zero_le _⟩
  id := PosixIdentity.root
  fdRights _ _ := 0

/-- TFS is mounted at `/`. -/
def tfsPermissions : Permissions :=
  ⟨Posix.booted, vfsInit (Vfs.blank Backend) BackendState.init .tfs⟩

/-- TFS refuses the mode, which is changed all the same. -/
theorem chmod_not_atomic :
    (tfsPermissions.pathChmod 0 [slash, 97] 0).2 = .error .perm ∧
      ¬ ChmodExact tfsPermissions 0 [slash, 97] 0 := by
  have herror : (tfsPermissions.pathChmod 0 [slash, 97] 0).2 = .error .perm := by decide
  have hbefore : (posixGetMode tfsPermissions.posix [slash, 97]).2 = some 0o664 := by decide
  have hafter : (posixGetMode (tfsPermissions.pathChmod 0 [slash, 97] 0).1.posix
      [slash, 97]).2 = some 0 := by decide
  refine ⟨herror, fun h => ?_⟩
  have hsame := (h.failed ⟨_, herror⟩ [slash, 97]).1
  rw [hbefore, hafter] at hsame
  cases hsame

end NeuroSpark
