import NeuroSpark.Proc.PathRecords

/-!
# Spellings of one file

TFS drops slashes in front of a name, and what follows the name, and folds case, so that many paths
name one file. `posix.c` compares paths byte by byte: each spelling has permissions of its own.
-/

namespace NeuroSpark

/-- The VFS takes both paths to the same file of TFS. -/
def SameTfsFile (v : Vfs Backend BackendState) (p q : CString) : Prop :=
  ∃ relP relQ nameP nameQ, resolveMount v p = some (.tfs, relP) ∧
    resolveMount v q = some (.tfs, relQ) ∧ normalizeTfsName relP = some nameP ∧
    normalizeTfsName relQ = some nameQ ∧ strCaseEq nameP nameQ = true

/-- The decision about one path is the decision about the other, and a mode that is set for the
first is the one that is looked up for the second. -/
structure OnePermission (p q : CString) : Prop where
  decision : ∀ (s : Posix) (task : Fin 8) (accessMask : Nat),
    (posixCheckPathPermission s task p accessMask).2 =
      (posixCheckPathPermission s task q accessMask).2
  chmod : ∀ (s : Posix) (task : Fin 8) (mode : Nat), (posixPathChmod s task p mode).2 = .ok 0 →
    (posixGetMode (posixPathChmod s task p mode).1 q).2 = some (mode &&& 0o7777)

section

variable {v : Vfs Backend BackendState} {p q : CString}

lemma ne_nil_of_normalize {rel name : CString} (h : resolveMount v p = some (.tfs, rel))
    (hname : normalizeTfsName rel = some name) : p ≠ [] := by
  rintro rfl
  obtain ⟨i, -, hi⟩ := Option.bind_eq_some_iff.1 h
  obtain ⟨b, -, hb⟩ := Option.map_eq_some_iff.1 hi
  obtain ⟨-, rfl⟩ := Prod.mk.inj hb
  rw [List.drop_nil] at hname
  split_ifs at hname
  · cases hname
  · cases hname
  · cases hname

/-- All tasks but task 0 are users. -/
def userIdentities (task : Fin 8) : PosixIdentity :=
  if task = 0 then PosixIdentity.root 0 else ⟨1, 1, 1, 1, 1, 1, 0⟩

/-- One path has a record, which gives users no access. -/
def Posix.closedPath (path : CString) : Posix where
  pathMeta i := ⟨i = 0, path.take posixPathMax, 0, 0, 0, List.length_take_le ..⟩
  id := userIdentities
  fdRights _ _ := 0

lemma check_eq (s : Posix) (task : Fin 8) {path : CString} (hpath : path ≠ []) {r : PathRights}
    (hr : s.rightsOf path = some r) (accessMask : Nat) :
    (posixCheckPathPermission s task path accessMask).2 = .ok 0 ↔
      accessMask &&& permissionBitsForIdentity ⟨true, [], r.uid, r.gid, r.mode, Nat.zero_le _⟩
        (s.id task) = accessMask := by
  rw [← rightsOf_eq] at hr
  obtain ⟨i, hi, hrights⟩ := Option.map_eq_some_iff.1 hr
  subst hrights
  rw [posixCheckPathPermission, if_neg hpath]
  simp only [hi, id_metaGetOrCreate]
  split_ifs with hmask
  · exact iff_of_false (fun h => by cases h) hmask
  · exact iff_of_true rfl (not_not.1 hmask)

lemma fresh_mode (path : CString) :
    (PathRights.fresh path).mode = 0o755 ∨ (PathRights.fresh path).mode = 0o664 := by
  rw [PathRights.fresh, PosixPathMeta.rights, PosixPathMeta.fresh]
  split_ifs
  · exact Or.inl rfl
  · exact Or.inr rfl

lemma closedPath_self (hp : Recordable p) : (Posix.closedPath p).rightsOf p = some ⟨0, 0, 0⟩ := by
  have hfind : metaFind (Posix.closedPath p) p = some 0 := by
    refine metaFind_eq_some_iff.2 ⟨hp.1, rfl, List.take_of_length_le hp.2, fun j hj => ?_⟩
    exact absurd hj (Fin.not_lt_zero j)
  rw [rightsOf_of_some hfind]
  rfl

lemma closedPath_ne (hp : Recordable p) (hq : q ≠ p) :
    (Posix.closedPath p).rightsOf q = some (PathRights.fresh q) := by
  have hfind : metaFind (Posix.closedPath p) q = none := by
    refine metaFind_eq_none_iff.2 (Or.inr fun j _ heq => hq ?_)
    exact heq.symm.trans (List.take_of_length_le hp.2)
  exact rightsOf_of_none hfind ⟨1, rfl⟩

lemma closedPath_decision (hp : Recordable p) (hq : q ≠ []) (hne : q ≠ p) :
    (posixCheckPathPermission (Posix.closedPath p) 1 q posixAccRead).2 ≠
      (posixCheckPathPermission (Posix.closedPath p) 1 p posixAccRead).2 := by
  have huser : (Posix.closedPath p).id 1 = ⟨1, 1, 1, 1, 1, 1, 0⟩ := rfl
  have hopen : (posixCheckPathPermission (Posix.closedPath p) 1 q posixAccRead).2 = .ok 0 := by
    have hrights : PathRights.fresh q = ⟨0, 0, (PathRights.fresh q).mode⟩ := rfl
    rw [check_eq _ _ hq (closedPath_ne hp hne), hrights, huser]
    rcases fresh_mode q with hmode | hmode <;> rw [hmode] <;> decide
  intro heq
  rw [hopen, eq_comm, check_eq _ _ hp.1 (closedPath_self hp), huser] at heq
  revert heq
  decide

lemma mode_of_chmod (hp : Recordable p) {s : Posix} {task : Fin 8} {mode : Nat}
    (hok : (posixPathChmod s task p mode).2 = .ok 0) :
    (posixGetMode (posixPathChmod s task p mode).1 p).2 = some (mode &&& 0o7777) := by
  rw [posixGetMode_eq]
  rcases metaGetOrCreate_cases s p with
    ⟨i, hfind, hget⟩ | ⟨-, -, hget⟩ | ⟨hnone, i, hfree, -, hget⟩
  · obtain ⟨-, hused, hpath, -⟩ := metaFind_eq_some_iff.1 hfind
    have hself : ∀ m : PosixPathMeta, m.used = true → m.path = p →
        ((s.setMeta i m).rightsOf p).map (·.mode) = some m.mode := fun m hused hpath => by
      rw [rightsOf_setMeta_self hfind hused hpath]
      rfl
    simp only [posixPathChmod, hget] at hok ⊢
    split_ifs at hok ⊢
    exact hself _ hused hpath
  · simp only [posixPathChmod, hget] at hok
    cases hok
  · have hself : ∀ m : PosixPathMeta, m.used = true → m.path = p →
        ((s.setMeta i m).rightsOf p).map (·.mode) = some m.mode := by
      rintro m hused rfl
      have hfind := (metaFind_new hfree hused).1 hp.1 fun j hj => by
        rw [hnone] at hj
        cases hj
      rw [rightsOf_of_some hfind, pathMeta_setMeta]
      rfl
    simp only [posixPathChmod, hget, pathMeta_setMeta, setMeta_setMeta] at hok ⊢
    split_ifs at hok ⊢
    exact hself _ rfl (List.take_of_length_le hp.2)

lemma mode_of_long (hp : posixPathMax < p.length) (hq : posixPathMax < q.length) :
    (posixPathChmod Posix.booted 0 p 0).2 = .ok 0 ∧
      (posixGetMode (posixPathChmod Posix.booted 0 p 0).1 q).2 ≠ some 0 := by
  constructor
  · rcases metaGetOrCreate_cases Posix.booted p with
      ⟨i, hfind, -⟩ | ⟨-, hfull, -⟩ | ⟨-, i, -, -, hget⟩
    · rw [metaFind_long hp] at hfind
      cases hfind
    · exact absurd ⟨0, rfl⟩ hfull
    · simp only [posixPathChmod, hget, Posix.id_setMeta]
      exact congrArg Prod.snd (if_neg fun h => h.1 rfl)
  · rw [posixGetMode_eq]
    intro hmode
    obtain ⟨r, hr, hzero⟩ := Option.map_eq_some_iff.1 hmode
    by_cases hroom : (posixPathChmod Posix.booted 0 p 0).1.HasRoom
    · rw [rightsOf_of_none (metaFind_long hq) hroom, Option.some.injEq] at hr
      subst hr
      rcases fresh_mode q with hfresh | hfresh
      · rw [hfresh] at hzero
        cases hzero
      · rw [hfresh] at hzero
        cases hzero
    · rw [rightsOf_of_full (metaFind_long hq) hroom] at hr
      cases hr

/-- Two spellings of a file have one permission if and only if they are the same string, and it is
short enough to be recorded. -/
theorem onePermission_iff (h : SameTfsFile v p q) :
    OnePermission p q ↔ p = q ∧ p.length ≤ posixPathMax := by
  obtain ⟨relP, relQ, nameP, nameQ, hresolveP, hresolveQ, hnameP, hnameQ, -⟩ := h
  have hp := ne_nil_of_normalize hresolveP hnameP
  have hq := ne_nil_of_normalize hresolveQ hnameQ
  constructor
  · intro hone
    by_cases hpq : p = q
    · subst hpq
      refine ⟨rfl, not_lt.1 fun hlong => ?_⟩
      obtain ⟨hok, hmode⟩ := mode_of_long hlong hlong
      exact hmode (hone.chmod _ _ _ hok)
    exfalso
    by_cases hrecP : Recordable p
    · exact closedPath_decision hrecP hq (Ne.symm hpq) (hone.decision _ _ _).symm
    by_cases hrecQ : Recordable q
    · exact closedPath_decision hrecQ hp hpq (hone.decision _ _ _)
    -- neither of them is ever found again
    have hlongP := not_le.1 fun hle => hrecP ⟨hp, hle⟩
    have hlongQ := not_le.1 fun hle => hrecQ ⟨hq, hle⟩
    obtain ⟨hok, hmode⟩ := mode_of_long hlongP hlongQ
    exact hmode (hone.chmod _ _ _ hok)
  · rintro ⟨rfl, hshort⟩
    exact ⟨fun _ _ _ => rfl, fun _ _ _ hok => mode_of_chmod ⟨hp, hshort⟩ hok⟩

end

lemma sameTfsFile_case : SameTfsFile tfsPermissions.vfs [slash, 97] [slash, 65] := by
  refine ⟨[slash, 97], [slash, 65], [97], [65], ?_, ?_, ?_, ?_, ?_⟩ <;> decide

/-- Root closes `/a`, and users still may read `/A`. -/
theorem spellings_differ :
    SameTfsFile tfsPermissions.vfs [slash, 97] [slash, 65] ∧
      ¬ OnePermission [slash, 97] [slash, 65] := by
  refine ⟨sameTfsFile_case, fun h => ?_⟩
  have hclosed : (posixCheckPathPermission (Posix.closedPath [slash, 97]) 1 [slash, 97]
      posixAccRead).2 = .error .perm := by decide
  have hopen : (posixCheckPathPermission (Posix.closedPath [slash, 97]) 1 [slash, 65]
      posixAccRead).2 = .ok 0 := by decide
  have hsame := h.decision (Posix.closedPath [slash, 97]) 1 posixAccRead
  rw [hclosed, hopen] at hsame
  cases hsame

/-- Two spellings of one file. -/
theorem onePermission_iff_case :
    SameTfsFile tfsPermissions.vfs [slash, 97] [slash, 65] ∧
      (OnePermission [slash, 97] [slash, 65] ↔
        ([slash, 97] : CString) = [slash, 65] ∧ ([slash, 97] : CString).length ≤ posixPathMax) :=
  ⟨sameTfsFile_case, onePermission_iff sameTfsFile_case⟩

end NeuroSpark
