import NeuroSpark.Lib.Machine
import NeuroSpark.Lib.Table
import NeuroSpark.Vfs.Model

/-!
# The descriptor tables stay consistent

The global table, the maps of the tasks and the handles of the backends agree along every run of
descriptor operations: an entry is used exactly if a task maps a descriptor to it, its reference
count is the number of such descriptors, and each used entry has a backend handle of its own.

All operations are made of three changes, a new entry, one more reference to an entry and one
reference less, and the invariant is proved once for each of them.
-/

namespace NeuroSpark

open Function (update update_self update_of_ne)

variable {β σ : Type}

/-! ### Backends -/

/-- What opening and closing do to the handles of all backends. `isOpen` tells the handles that are
marked used and `good` is an invariant of the backends. -/
structure HandleLaws (ops : β → VfsBackendOps σ) (isOpen : σ → β → Nat → Prop) (good : σ → Prop) :
    Prop where
  openFile_good : ∀ {s} (b path flags), good s → good ((ops b).openFile s path flags).1
  openFile_fresh : ∀ {s b path flags h}, good s → ((ops b).openFile s path flags).2 = .ok h →
    ¬ isOpen s b h
  openFile_ok : ∀ {s b path flags h}, good s → ((ops b).openFile s path flags).2 = .ok h →
    ∀ b' h', isOpen ((ops b).openFile s path flags).1 b' h' ↔ isOpen s b' h' ∨ b' = b ∧ h' = h
  openFile_error : ∀ {s b path flags e}, good s → ((ops b).openFile s path flags).2 = .error e →
    ∀ b' h', isOpen ((ops b).openFile s path flags).1 b' h' ↔ isOpen s b' h'
  close_good : ∀ {s b h}, good s → good ((ops b).close s h).1
  close : ∀ {s b h}, good s → isOpen s b h →
    ∀ b' h', isOpen ((ops b).close s h).1 b' h' ↔ isOpen s b' h' ∧ ¬ (b' = b ∧ h' = h)

section

variable (isOpen : σ → β → Nat → Prop) (good : σ → Prop)

/-- The backend handle is marked used. -/
def Vfs.HandleOpen (s : Vfs β σ) : VfsOps β → Nat → Prop
  | .pipe, h => ∃ i, pipeHandle h = some i ∧ (s.pipeHandles i).used = true
  | .file b, h => isOpen s.files b h

/-- The tables agree. -/
structure Vfs.Consistent (s : Vfs β σ) : Prop where
  good : good s.files
  used_iff : ∀ g : Fin 512, (s.fdTable g).used = true ↔ ∃ p, s.taskFdMap p = g
  refCount : ∀ g : Fin 512, (s.fdTable g).refCount = Table.count s.taskFdMap (g : Int)
  mapped : ∀ p, 0 ≤ s.taskFdMap p → ∃ g : Fin 512, s.taskFdMap p = g ∧ (s.fdTable g).used = true
  handle : ∀ g, (s.fdTable g).used = true →
    ∃ o h, (s.fdTable g).ops = some o ∧ (s.fdTable g).backendHandle = some h ∧
      s.HandleOpen isOpen o h
  distinct : ∀ g g', (s.fdTable g).used = true → (s.fdTable g').used = true → g ≠ g' →
    (s.fdTable g).ops = (s.fdTable g').ops →
      (s.fdTable g).backendHandle ≠ (s.fdTable g').backendHandle

/-- The same descriptors and the same open handles; free places in the maps may hold another
negative number. -/
structure Vfs.SameDescriptors (s t : Vfs β σ) : Prop where
  good : good t.files
  fdTable : t.fdTable = s.fdTable
  taskFdMap : ∀ p, t.taskFdMap p = s.taskFdMap p ∨ t.taskFdMap p < 0 ∧ s.taskFdMap p < 0
  handleOpen : ∀ o h, t.HandleOpen isOpen o h ↔ s.HandleOpen isOpen o h

end

variable {ops : β → VfsBackendOps σ} {isOpen : σ → β → Nat → Prop} {good : σ → Prop}

lemma Fin.intCast_inj {n : Nat} {g g' : Fin n} : ((g : Nat) : Int) = (g' : Nat) ↔ g = g' := by
  rw [Int.natCast_inj, Fin.val_inj]

namespace Vfs

variable {s t : Vfs β σ}

lemma SameDescriptors.taskFdMap_eq_iff (h : s.SameDescriptors isOpen good t) (p : Fin 8 × Fin 256)
    (g : Fin 512) : t.taskFdMap p = g ↔ s.taskFdMap p = g := by
  rcases h.taskFdMap p with he | ⟨ht, hs⟩
  · rw [he]
  · exact iff_of_false (by omega) (by omega)

section

variable (hs : s.Consistent isOpen good)
include hs

lemma Consistent.of_same (h : s.SameDescriptors isOpen good t) : t.Consistent isOpen good where
  good := h.good
  used_iff g := by simp only [h.fdTable, hs.used_iff, h.taskFdMap_eq_iff]
  refCount g := by
    rw [h.fdTable, hs.refCount]
    simp only [Table.count, h.taskFdMap_eq_iff]
  mapped p hp := by
    have hmap : t.taskFdMap p = s.taskFdMap p := by
      rcases h.taskFdMap p with he | ⟨hneg, -⟩
      · exact he
      · omega
    rw [hmap] at hp ⊢
    rw [h.fdTable]
    exact hs.mapped p hp
  handle g hg := by
    rw [h.fdTable] at hg ⊢
    obtain ⟨o, hd, ho, hh, hopen⟩ := hs.handle g hg
    exact ⟨o, hd, ho, hh, (h.handleOpen o hd).mpr hopen⟩
  distinct g g' hg hg' hne := by
    rw [h.fdTable] at hg hg' ⊢
    exact hs.distinct g g' hg hg' hne

lemma Consistent.setMount (i : Fin 8) (m : VfsMount β) : (s.setMount i m).Consistent isOpen good :=
  hs.of_same ⟨hs.good, rfl, fun _ => Or.inl rfl, fun o _ => by cases o <;> exact Iff.rfl⟩

lemma Consistent.setFiles {f : σ} (hf : good f) (h : ∀ b h, isOpen f b h ↔ isOpen s.files b h) :
    ({ s with files := f } : Vfs β σ).Consistent isOpen good := by
  refine hs.of_same ⟨hf, rfl, fun _ => Or.inl rfl, fun o hd => ?_⟩
  cases o with
  | pipe => exact Iff.rfl
  | file b => exact h b hd

lemma Consistent.used_iff_refCount (g : Fin 512) :
    (s.fdTable g).used = true ↔ 0 < (s.fdTable g).refCount := by
  rw [hs.used_iff, hs.refCount, Table.count_pos_iff]

omit hs in
lemma Consistent.of_counts (hgood : good s.files)
    (hcount : ∀ g : Fin 512, (s.fdTable g).refCount = Table.count s.taskFdMap (g : Int))
    (hused : ∀ g : Fin 512, (s.fdTable g).used = true ↔ 0 < (s.fdTable g).refCount)
    (hrange : ∀ p, s.taskFdMap p < 512)
    (hhandle : ∀ g, (s.fdTable g).used = true →
      ∃ o h, (s.fdTable g).ops = some o ∧ (s.fdTable g).backendHandle = some h ∧
        s.HandleOpen isOpen o h)
    (hdistinct : ∀ g g', (s.fdTable g).used = true → (s.fdTable g').used = true → g ≠ g' →
      (s.fdTable g).ops = (s.fdTable g').ops →
        (s.fdTable g).backendHandle ≠ (s.fdTable g').backendHandle) :
    s.Consistent isOpen good := by
  have hused' : ∀ g : Fin 512, (s.fdTable g).used = true ↔ ∃ p, s.taskFdMap p = g := by
    intro g
    rw [hused, hcount, Table.count_pos_iff]
  refine ⟨hgood, hused', hcount, fun p hp => ?_, hhandle, hdistinct⟩
  have hlt := hrange p
  have hg : s.taskFdMap p = ((⟨(s.taskFdMap p).toNat, by omega⟩ : Fin 512) : Nat) := by
    simp only
    omega
  exact ⟨_, hg, (hused' _).mpr ⟨p, hg⟩⟩

variable {p : Fin 8 × Fin 256} {g : Fin 512}

lemma Consistent.taskFdMap_lt (p : Fin 8 × Fin 256) : s.taskFdMap p < 512 := by
  by_cases hp : 0 ≤ s.taskFdMap p
  · obtain ⟨g, hg, -⟩ := hs.mapped p hp
    omega
  · omega

lemma Consistent.update_lt (p q : Fin 8 × Fin 256) {v : Int}
    (hv : v < 512) : update s.taskFdMap p v q < 512 := by
  by_cases hq : q = p
  · subst hq
    rw [update_self]
    exact hv
  · rw [update_of_ne hq]
    exact hs.taskFdMap_lt q

/-! ### The three changes -/

lemma Consistent.setRefCount {v : Int} (hv : v < 512) (hg : (s.fdTable g).used = true) {r : Nat}
    (hr : 0 < r)
    (hcount : ∀ g' : Fin 512, Table.count (update s.taskFdMap p v) (g' : Int) =
      if g' = g then r else (s.fdTable g').refCount) :
    ((s.setTaskFd p v).setFd g { s.fdTable g with refCount := r }).Consistent isOpen good := by
  -- apart from its reference count, every entry stays as it is
  have hfd : ∀ g', update s.fdTable g { s.fdTable g with refCount := r } g' =
      { s.fdTable g' with refCount := if g' = g then r else (s.fdTable g').refCount } := by
    intro g'
    by_cases hg' : g' = g
    · subst hg'
      simp
    · simp [hg']
  apply Consistent.of_counts
  · exact hs.good
  · intro g'
    simp only [setFd, setTaskFd, hfd, hcount]
  · intro g'
    simp only [setFd, setTaskFd, hfd]
    split_ifs with hg'
    · simp [hg', hg, hr]
    · exact hs.used_iff_refCount g'
  · exact fun q => hs.update_lt p q hv
  · intro g' hu
    simp only [setFd, setTaskFd, hfd] at hu ⊢
    obtain ⟨o, h, ho, hh, hopen⟩ := hs.handle g' hu
    exact ⟨o, h, ho, hh, by cases o <;> exact hopen⟩
  · intro g₁ g₂ hu₁ hu₂ hne
    simp only [setFd, setTaskFd, hfd] at hu₁ hu₂ ⊢
    exact hs.distinct g₁ g₂ hu₁ hu₂ hne

lemma Consistent.addRef (hp : s.taskFdMap p < 0) (hg : (s.fdTable g).used = true) :
    ((s.setTaskFd p g).setFd g { s.fdTable g with
      refCount := (s.fdTable g).refCount + 1 }).Consistent isOpen good := by
  refine hs.setRefCount (by omega) hg (Nat.succ_pos _) fun g' => ?_
  split_ifs with hg'
  · subst hg'
    rw [Table.count_update_new (by omega), hs.refCount]
  · have hne : ((g : Nat) : Int) ≠ (g' : Nat) := fun h => hg' (Fin.intCast_inj.mp h).symm
    rw [Table.count_update_other (by omega) hne, hs.refCount]

/-- A new entry, for a handle just opened. -/
lemma Consistent.newFd (hp : s.taskFdMap p < 0) (hg : (s.fdTable g).used = false) {f : σ}
    (hf : good f) {b : β} {h : Nat} (hfresh : ¬ isOpen s.files b h)
    (hopen : ∀ b' h', isOpen f b' h' ↔ isOpen s.files b' h' ∨ b' = b ∧ h' = h) (flags : UInt32) :
    ((({ s with files := f } : Vfs β σ).setFd g
      ⟨true, some (.file b), some h, flags, 1⟩).setTaskFd p g).Consistent isOpen good := by
  have hzero : Table.count s.taskFdMap (g : Int) = 0 := by
    have h0 := hs.used_iff_refCount g
    rw [hg, hs.refCount] at h0
    simpa using h0
  have hold : ∀ {o h'}, s.HandleOpen isOpen o h' →
      Vfs.HandleOpen isOpen ({ s with files := f } : Vfs β σ) o h' := by
    intro o h' ho
    cases o with
    | pipe => exact ho
    | file b' => exact (hopen b' h').mpr (Or.inl ho)
  apply Consistent.of_counts
  · exact hf
  · intro g'
    simp only [setFd, setTaskFd]
    by_cases hg' : g' = g
    · subst hg'
      rw [update_self, Table.count_update_new (by omega), hzero]
    · have hne : ((g : Nat) : Int) ≠ (g' : Nat) := fun h => hg' (Fin.intCast_inj.mp h).symm
      rw [update_of_ne hg', Table.count_update_other (by omega) hne, hs.refCount]
  · intro g'
    simp only [setFd, setTaskFd]
    by_cases hg' : g' = g
    · subst hg'
      simp
    · rw [update_of_ne hg']
      exact hs.used_iff_refCount g'
  · intro q
    exact hs.update_lt p q (by omega)
  · intro g' hu
    simp only [setFd, setTaskFd] at hu ⊢
    by_cases hg' : g' = g
    · subst hg'
      rw [update_self]
      exact ⟨_, _, rfl, rfl, (hopen b h).mpr (Or.inr ⟨rfl, rfl⟩)⟩
    · rw [update_of_ne hg'] at hu ⊢
      obtain ⟨o, h', ho, hh, hopen'⟩ := hs.handle g' hu
      refine ⟨o, h', ho, hh, ?_⟩
      have := hold hopen'
      cases o <;> exact this
  · -- an older entry of the same backend has a handle that was open before
    have hne : ∀ g', (s.fdTable g').used = true → (s.fdTable g').ops = some (.file b) →
        (s.fdTable g').backendHandle ≠ some h := by
      intro g' hu ho hh
      obtain ⟨o, h', ho', hh', hopen'⟩ := hs.handle g' hu
      rw [ho, Option.some.injEq] at ho'
      rw [hh, Option.some.injEq] at hh'
      subst ho' hh'
      exact hfresh hopen'
    intro g₁ g₂ hu₁ hu₂ hg₁₂ ho
    simp only [setFd, setTaskFd] at hu₁ hu₂ ho ⊢
    by_cases h₁ : g₁ = g
    · subst h₁
      rw [update_of_ne (Ne.symm hg₁₂)] at hu₂ ho ⊢
      rw [update_self] at ho ⊢
      exact fun hh => hne g₂ hu₂ ho.symm hh.symm
    · rw [update_of_ne h₁] at hu₁ ho ⊢
      by_cases h₂ : g₂ = g
      · subst h₂
        rw [update_self] at ho ⊢
        exact fun hh => hne g₁ hu₁ ho hh
      · rw [update_of_ne h₂] at hu₂ ho ⊢
        exact hs.distinct g₁ g₂ hu₁ hu₂ hg₁₂ ho

omit hs in
lemma closeBackend_spec (laws : HandleLaws ops isOpen good) (hgood : good s.files) {o : VfsOps β}
    {h : Nat} (ho : s.HandleOpen isOpen o h) :
    (s.closeBackend ops o (some h)).1.fdTable = s.fdTable ∧
      (s.closeBackend ops o (some h)).1.taskFdMap = s.taskFdMap ∧
      good (s.closeBackend ops o (some h)).1.files ∧
      ∀ o' h', (s.closeBackend ops o (some h)).1.HandleOpen isOpen o' h' ↔
        s.HandleOpen isOpen o' h' ∧ ¬ (o' = o ∧ h' = h) := by
  cases o with
  | file b =>
    refine ⟨rfl, rfl, laws.close_good hgood, fun o' h' => ?_⟩
    cases o' with
    | pipe => simp [closeBackend, HandleOpen]
    | file b' => simpa [closeBackend, HandleOpen] using laws.close hgood ho b' h'
  | pipe =>
    obtain ⟨i, hi, hu⟩ := ho
    have hclose : (s.closeBackend ops .pipe (some h)).1 = closePipeHandle s i := by
      simp [closeBackend, pipeCloseBackend, hi, hu]
    rw [hclose]
    refine ⟨rfl, rfl, hgood, fun o' h' => ?_⟩
    cases o' with
    | file b' => simp [HandleOpen, closePipeHandle, setPipe, setPipeHandle]
    | pipe =>
      simp only [HandleOpen, closePipeHandle, setPipe, setPipeHandle, true_and]
      constructor
      · rintro ⟨j, hj, hju⟩
        have hji : j ≠ i := by
          rintro rfl
          simp at hju
        rw [update_of_ne hji] at hju
        refine ⟨⟨j, hj, hju⟩, ?_⟩
        rintro rfl
        exact hji (Option.some.inj (hj.symm.trans hi))
      · rintro ⟨⟨j, hj, hju⟩, hne⟩
        have hji : j ≠ i := by
          rintro rfl
          simp only [pipeHandle, Option.dite_none_right_eq_some, Option.some.injEq] at hi hj
          obtain ⟨_, hi⟩ := hi
          obtain ⟨_, hj⟩ := hj
          exact hne (by rw [← hj, Fin.mk.injEq] at hi; exact hi.symm)
        exact ⟨j, hj, by rw [update_of_ne hji]; exact hju⟩

omit hs in
lemma openGlobalFd_eq_some {gfd : Int} {g : Fin 512} {o : VfsOps β} :
    openGlobalFd s gfd = some (g, o) ↔
      gfd = g ∧ (s.fdTable g).used = true ∧ (s.fdTable g).ops = some o := by
  unfold openGlobalFd
  constructor
  · intro h
    split at h
    · dsimp only at h
      split at h
      · rename_i hr hu
        simp only [Option.map_eq_some_iff, Prod.mk.injEq] at h
        obtain ⟨o', ho', rfl, rfl⟩ := h
        exact ⟨by simp only; omega, hu, ho'⟩
      · cases h
    · cases h
  · rintro ⟨rfl, hu, ho⟩
    simp [hu, ho]

lemma Consistent.openGlobalFd_eq {p : Fin 8 × Fin 256} {g : Fin 512} (hp : s.taskFdMap p = g) :
    ∃ o h, openGlobalFd s (s.taskFdMap p) = some (g, o) ∧
      (s.fdTable g).backendHandle = some h ∧ s.HandleOpen isOpen o h := by
  have hu := (hs.used_iff g).mpr ⟨p, hp⟩
  obtain ⟨o, h, ho, hh, hopen⟩ := hs.handle g hu
  exact ⟨o, h, openGlobalFd_eq_some.mpr ⟨hp, hu, ho⟩, hh, hopen⟩

lemma Consistent.count_drop {p : Fin 8 × Fin 256} {g : Fin 512} (hp : s.taskFdMap p = g)
    (g' : Fin 512) :
    Table.count (update s.taskFdMap p (-1)) (g' : Int) =
      if g' = g then (s.fdTable g).refCount - 1 else (s.fdTable g').refCount := by
  split_ifs with hg'
  · subst hg'
    have h := Table.count_update_old (f := s.taskFdMap) (v := -1) hp (by omega)
    rw [← hs.refCount] at h
    omega
  · have hne : s.taskFdMap p ≠ (g' : Nat) := by
      rw [hp]
      exact fun h => hg' (Fin.intCast_inj.mp h).symm
    rw [Table.count_update_other hne (by omega), hs.refCount]

end

/-- One descriptor less: the entry stays while others refer to it. -/
lemma Consistent.dropRef (laws : HandleLaws ops isOpen good) (hs : s.Consistent isOpen good)
    {p : Fin 8 × Fin 256} {g : Fin 512} (hp : s.taskFdMap p = g) :
    (closeGlobalFd ops (s.setTaskFd p (-1)) g).1.Consistent isOpen good := by
  obtain ⟨o, h, hog, hh, hopen⟩ := hs.openGlobalFd_eq hp
  rw [hp] at hog
  have hog' : openGlobalFd (s.setTaskFd p (-1)) g = some (g, o) := hog
  obtain ⟨-, hu, ho⟩ := openGlobalFd_eq_some.mp hog
  have hfd : (s.setTaskFd p (-1)).fdTable = s.fdTable := rfl
  rw [closeGlobalFd, hog']
  simp only [hfd]
  split_ifs with href
  · -- another descriptor refers to the entry
    exact hs.setRefCount (by omega) hu (by omega) (hs.count_drop hp)
  · -- the last descriptor: the backend handle is closed and the entry cleared
    have hone : (s.fdTable g).refCount = 1 := by
      have := (hs.used_iff_refCount g).mp hu
      omega
    have hopen' : (s.setTaskFd p (-1)).HandleOpen isOpen o h := by cases o <;> exact hopen
    rw [hh]
    obtain ⟨htab, hmap, hgood, hclosed⟩ := closeBackend_spec laws (s := s.setTaskFd p (-1)) hs.good
      hopen'
    apply Consistent.of_counts
    · exact hgood
    · intro g'
      simp only [setFd, hmap, htab]
      rw [setTaskFd, hs.count_drop hp]
      split_ifs with hg'
      · subst hg'
        rw [update_self, hone]
        rfl
      · rw [update_of_ne hg']
    · intro g'
      simp only [setFd, htab]
      by_cases hg' : g' = g
      · subst hg'
        simp [VfsFd.closed]
      · rw [update_of_ne hg']
        exact hs.used_iff_refCount g'
    · intro q
      simp only [setFd, hmap]
      exact hs.update_lt p q (by omega)
    · intro g' hu'
      simp only [setFd, htab] at hu' ⊢
      by_cases hg' : g' = g
      · subst hg'
        rw [update_self] at hu'
        cases hu'
      · rw [update_of_ne hg'] at hu' ⊢
        obtain ⟨o', h', ho', hh', hop'⟩ := hs.handle g' hu'
        refine ⟨o', h', ho', hh', ?_⟩
        have hkeep : ¬ (o' = o ∧ h' = h) := by
          rintro ⟨rfl, rfl⟩
          exact hs.distinct g' g hu' hu hg' (ho'.trans ho.symm) (hh'.trans hh.symm)
        have hop'' : (s.setTaskFd p (-1)).HandleOpen isOpen o' h' := by cases o' <;> exact hop'
        have hres := (hclosed o' h').mpr ⟨hop'', hkeep⟩
        cases o' <;> exact hres
    · intro g₁ g₂ hu₁ hu₂ hne
      simp only [setFd, htab] at hu₁ hu₂ ⊢
      by_cases h₁ : g₁ = g
      · subst h₁
        rw [update_self] at hu₁
        cases hu₁
      · by_cases h₂ : g₂ = g
        · subst h₂
          rw [update_self] at hu₂
          cases hu₂
        · rw [update_of_ne h₁] at hu₁ ⊢
          rw [update_of_ne h₂] at hu₂ ⊢
          exact hs.distinct g₁ g₂ hu₁ hu₂ hne

end Vfs

/-! ### The operations -/

section

variable {s : Vfs β σ} {i : Fin 256} {src dst : Fin 8} {t : Vfs β σ}

lemma allocTaskFd_neg {task : Fin 8} (h : allocTaskFd s task = some i) :
    s.taskFdMap (task, i) < 0 := by
  simpa using List.find?_some h

lemma allocGlobalFd_unused {g : Fin 512} (h : allocGlobalFd s = some g) :
    (s.fdTable g).used = false := by
  simpa using List.find?_some h

section

variable (laws : HandleLaws ops isOpen good) (hs : s.Consistent isOpen good)
include laws hs

lemma vfsOpen_consistent (osCurrentTask : Int) (path : CString) (flags : UInt32) :
    (vfsOpen ops s osCurrentTask path flags).1.Consistent isOpen good := by
  unfold vfsOpen
  dsimp only
  split
  · exact hs
  split
  · exact hs
  rename_i b relPath _
  have hgood := laws.openFile_good b relPath flags hs.good
  split
  · rename_i e he
    exact hs.setFiles hgood (laws.openFile_error hs.good he)
  rename_i h hok
  have hopen := laws.openFile_ok hs.good hok
  have hfresh := laws.openFile_fresh hs.good hok
  split
  · rename_i g i hg hi
    exact hs.newFd (allocTaskFd_neg hi) (allocGlobalFd_unused hg) hgood hfresh hopen flags
  · -- without a free descriptor the handle is closed again
    refine hs.setFiles (laws.close_good hgood) fun b' h' => ?_
    rw [laws.close hgood ((hopen b h).mpr (Or.inr ⟨rfl, rfl⟩)), hopen]
    constructor
    · rintro ⟨hold | hnew, hne⟩
      · exact hold
      · exact absurd hnew hne
    · intro hold
      refine ⟨Or.inl hold, ?_⟩
      rintro ⟨rfl, rfl⟩
      exact hfresh hold

lemma closeTaskSlot_consistent (task : Fin 8) (i : Fin 256) :
    (closeTaskSlot ops task s i).Consistent isOpen good := by
  unfold closeTaskSlot
  dsimp only
  split_ifs with hpos
  · obtain ⟨g, hg, -⟩ := hs.mapped _ hpos
    rw [hg]
    exact hs.dropRef laws hg
  · exact hs

omit laws hs in
lemma vfsClose_eq_closeTaskSlot {osCurrentTask fd : Int} (hi : localFd fd = some i) :
    (vfsClose ops s osCurrentTask fd).1 = closeTaskSlot ops (currentTaskId osCurrentTask) s i := by
  simp only [vfsClose, hi, closeTaskSlot]
  split_ifs <;> first | rfl | omega

lemma vfsClose_consistent (osCurrentTask fd : Int) :
    (vfsClose ops s osCurrentTask fd).1.Consistent isOpen good := by
  cases hi : localFd fd with
  | none => simpa [vfsClose, hi] using hs
  | some i =>
    rw [vfsClose_eq_closeTaskSlot hi]
    exact closeTaskSlot_consistent laws hs _ i

omit laws in
lemma vfsDup_consistent (osCurrentTask fd : Int) :
    (vfsDup s osCurrentTask fd).1.Consistent isOpen good := by
  unfold vfsDup
  dsimp only
  split
  · exact hs
  rename_i g o hg
  split
  · exact hs
  · rename_i i hi
    exact hs.addRef (allocTaskFd_neg hi) (Vfs.openGlobalFd_eq_some.mp hg).2.1

/-- After a place was emptied it holds no entry, and entries that another descriptor refers to are
still used. -/
lemma closeTaskSlot_frees {task : Fin 8} (hpos : 0 ≤ s.taskFdMap (task, i)) :
    (closeTaskSlot ops task s i).taskFdMap = update s.taskFdMap (task, i) (-1) := by
  obtain ⟨g, hg, -⟩ := hs.mapped _ hpos
  obtain ⟨o, h, hog, hh, hopen⟩ := hs.openGlobalFd_eq hg
  have hog' : openGlobalFd (s.setTaskFd (task, i) (-1)) (s.taskFdMap (task, i)) = some (g, o) := hog
  rw [closeTaskSlot, if_pos hpos, closeGlobalFd, hog']
  dsimp only
  split_ifs with href
  · rfl
  · have hfd : ((s.setTaskFd (task, i) (-1)).fdTable g).backendHandle = some h := hh
    have hopen' : (s.setTaskFd (task, i) (-1)).HandleOpen isOpen o h := by cases o <;> exact hopen
    rw [hfd]
    exact (Vfs.closeBackend_spec laws (s := s.setTaskFd (task, i) (-1)) hs.good hopen').2.1

lemma vfsDup2_consistent (osCurrentTask fd newfd : Int) :
    (vfsDup2 ops s osCurrentTask fd newfd).1.Consistent isOpen good := by
  unfold vfsDup2
  dsimp only
  split
  · exact hs
  rename_i g o hg
  obtain ⟨hfd, hu, -⟩ := Vfs.openGlobalFd_eq_some.mp hg
  split
  · exact hs
  rename_i i hi
  split_ifs with hsame hpos
  · exact hs
  · -- the source descriptor is another place of the map, so its entry survives the close
    obtain ⟨j, hj⟩ : ∃ j, localFd fd = some j := by
      cases hj : localFd fd with
      | none => simp [taskFdToGlobal, hj] at hfd
      | some j => exact ⟨j, rfl⟩
    have hji : j ≠ i := by
      rintro rfl
      simp only [localFd, Option.dite_none_right_eq_some, Option.some.injEq] at hi hj
      obtain ⟨_, hi⟩ := hi
      obtain ⟨_, hj⟩ := hj
      rw [← hj, Fin.mk.injEq] at hi
      omega
    rw [taskFdToGlobal, hj] at hfd
    rw [vfsClose_eq_closeTaskSlot hi]
    have hs' := closeTaskSlot_consistent laws hs (currentTaskId osCurrentTask) i
    have hmap := closeTaskSlot_frees laws hs hpos
    refine hs'.addRef (by rw [hmap, update_self]; omega) ?_
    rw [hs'.used_iff]
    refine ⟨(currentTaskId osCurrentTask, j), ?_⟩
    rw [hmap, update_of_ne (by simp [hji])]
    exact hfd
  · exact hs.addRef (by omega) hu

lemma vfsCloseAllForTask_consistent (taskId : Int) :
    (vfsCloseAllForTask ops s taskId).Consistent isOpen good := by
  unfold vfsCloseAllForTask
  split
  · exact hs
  · rename_i task _
    generalize List.finRange 256 = slots
    induction slots generalizing s with
    | nil => exact hs
    | cons i slots ih => exact ih (closeTaskSlot_consistent laws hs task i)

end

section

variable (hs : s.Consistent isOpen good)
include hs

lemma clearTaskFds_same {dst : Fin 8} (hdst : ∀ i, s.taskFdMap (dst, i) < 0)
    (slots : List (Fin 256)) :
    s.SameDescriptors isOpen good (slots.foldl (fun s i => s.setTaskFd (dst, i) (-1)) s) := by
  have hrefl : s.SameDescriptors isOpen good s :=
    ⟨hs.good, rfl, fun _ => Or.inl rfl, fun _ _ => Iff.rfl⟩
  suffices h : ∀ t : Vfs β σ, s.SameDescriptors isOpen good t →
      s.SameDescriptors isOpen good (slots.foldl (fun s i => s.setTaskFd (dst, i) (-1)) t) from
    h s hrefl
  induction slots with
  | nil => exact fun t ht => ht
  | cons i slots ih =>
    intro t ht
    refine ih _ ⟨ht.good, ht.fdTable, fun p => ?_, fun o h => ?_⟩
    · by_cases hp : p = (dst, i)
      · subst hp
        exact Or.inr ⟨by simp [Vfs.setTaskFd], hdst i⟩
      · simpa [Vfs.setTaskFd, hp] using ht.taskFdMap p
    · rw [← ht.handleOpen o h]
      cases o <;> exact Iff.rfl

lemma cloneTaskSlot_consistent
    (hi : s.taskFdMap (dst, i) < 0) : (cloneTaskSlot src dst s i).Consistent isOpen good := by
  unfold cloneTaskSlot
  dsimp only
  split_ifs with hr hu
  · exact hs.addRef hi hu
  · exact hs
  · exact hs

omit hs in
lemma cloneTaskSlot_other {p : Fin 8 × Fin 256}
    (hp : p ≠ (dst, i)) : (cloneTaskSlot src dst s i).taskFdMap p = s.taskFdMap p := by
  unfold cloneTaskSlot
  dsimp only
  split_ifs
  · simp [Vfs.setFd, Vfs.setTaskFd, hp]
  · rfl
  · rfl

lemma cloneTaskSlots_consistent {slots : List (Fin 256)} (hnodup : slots.Nodup)
    (hfree : ∀ i ∈ slots, s.taskFdMap (dst, i) < 0) :
    (slots.foldl (cloneTaskSlot src dst) s).Consistent isOpen good := by
  -- the places of the destination that are still to come are free
  induction slots generalizing s with
  | nil => exact hs
  | cons i slots ih =>
    obtain ⟨hi, hrest⟩ := List.nodup_cons.mp hnodup
    refine ih (cloneTaskSlot_consistent hs (hfree i (List.mem_cons_self ..))) hrest fun j hj => ?_
    rw [cloneTaskSlot_other (by rintro ⟨⟩; exact hi hj)]
    exact hfree j (List.mem_cons_of_mem _ hj)

lemma vfsCloneTaskFds_consistent {srcTaskId dstTaskId : Int}
    (hdst : ∀ dst, taskIndex dstTaskId = some dst → ∀ i, s.taskFdMap (dst, i) < 0) :
    (vfsCloneTaskFds s srcTaskId dstTaskId).1.Consistent isOpen good := by
  unfold vfsCloneTaskFds
  split
  · rename_i src dst _ hd
    have hnodup := List.nodup_finRange 256
    generalize List.finRange 256 = slots at hnodup ⊢
    have hsame := clearTaskFds_same hs (hdst dst hd) slots
    refine cloneTaskSlots_consistent (hs.of_same hsame) hnodup fun i _ => ?_
    have hneg := hdst dst hd i
    rcases hsame.taskFdMap (dst, i) with he | ⟨hlt, -⟩
    · rw [he]
      exact hneg
    · exact hlt
  · exact hs

end

/-! ### Pipes -/

/-- The place taken by the reading end still counts as free, so the writing end gets the same
place. -/
lemma allocTaskFd_setTaskFd {task : Fin 8} (h : allocTaskFd s task = some i) :
    allocTaskFd (s.setTaskFd (task, i) (-2)) task = some i := by
  rw [← h]
  unfold allocTaskFd
  congr 1
  funext j
  by_cases hj : j = i
  · subst hj
    have hneg := allocTaskFd_neg h
    simp [Vfs.setTaskFd, hneg]
  · simp [Vfs.setTaskFd, hj]

/-- Marking two entries that are not used and clearing the marks changes nothing. -/
lemma setFdUsed_undo {s₁ s₂ : Vfs β σ} {rg wg : Option (Fin 512)} (hr : rg = allocGlobalFd s)
    (h₁ : s₁ = s.setFdUsed true rg) (hw : wg = allocGlobalFd s₁) (h₂ : s₂ = s₁.setFdUsed true wg) :
    ((s₂.setFdUsed false rg).setFdUsed false wg).fdTable = s.fdTable := by
  have hkeep : ∀ {t : Vfs β σ} {g : Fin 512}, (t.fdTable g).used = false →
      ∀ u, ({ ({ t.fdTable g with used := u } : VfsFd β) with used := false } : VfsFd β) =
        t.fdTable g := by
    intro t g hu u
    cases hg : t.fdTable g
    rw [hg] at hu
    simpa using hu.symm
  subst h₁ h₂
  cases rg with
  | none =>
    cases wg with
    | none => rfl
    | some w =>
      have hwu := allocGlobalFd_unused hw.symm
      simp only [Vfs.setFdUsed] at hwu ⊢
      simp only [Vfs.setFd, update_self, Function.update_idem, hkeep hwu true,
        Function.update_eq_self]
  | some r =>
    have hru := allocGlobalFd_unused hr.symm
    cases wg with
    | none =>
      simp only [Vfs.setFdUsed, Vfs.setFd, update_self, Function.update_idem,
        hkeep hru true, Function.update_eq_self]
    | some w =>
      have hwu := allocGlobalFd_unused hw.symm
      have hwr : w ≠ r := by
        rintro rfl
        simp [Vfs.setFdUsed, Vfs.setFd] at hwu
      have hwu' : (s.fdTable w).used = false := by
        simpa [Vfs.setFdUsed, Vfs.setFd, hwr] using hwu
      funext g
      simp only [Vfs.setFdUsed, Vfs.setFd]
      by_cases hgw : g = w
      · subst hgw
        simp [hwr, hkeep hwu' true]
      · by_cases hgr : g = r
        · subst hgr
          simp [hgw, hkeep hru true]
        · simp [hgw, hgr]

lemma pipeCloseBackend_used (i k : Fin 128) :
    ((pipeCloseBackend s i).1.pipeHandles k).used =
      if k = i then false else (s.pipeHandles k).used := by
  have hi : pipeHandle (i : Nat) = some i := by simp [pipeHandle]
  simp only [pipeCloseBackend, hi]
  by_cases hu : (s.pipeHandles i).used = true
  · rw [hu]
    by_cases hk : k = i
    · subst hk
      simp [closePipeHandle, Vfs.setPipe, Vfs.setPipeHandle]
    · simp [closePipeHandle, Vfs.setPipe, Vfs.setPipeHandle, hk]
  · have hu' : (s.pipeHandles i).used = false := by simpa using hu
    rw [hu']
    by_cases hk : k = i
    · subst hk
      simpa using hu'
    · simp [hk]

/-- The descriptors and the backends are the same. -/
structure Vfs.SameTables (s t : Vfs β σ) : Prop where
  fdTable : t.fdTable = s.fdTable
  taskFdMap : t.taskFdMap = s.taskFdMap
  files : t.files = s.files

lemma Vfs.SameTables.trans {t u : Vfs β σ} (h : s.SameTables t) (h' : t.SameTables u) :
    s.SameTables u :=
  ⟨h'.fdTable.trans h.fdTable, h'.taskFdMap.trans h.taskFdMap, h'.files.trans h.files⟩

lemma pipeCloseBackend_same (h : Nat) : s.SameTables (pipeCloseBackend s h).1 := by
  unfold pipeCloseBackend
  split
  · exact ⟨rfl, rfl, rfl⟩
  · split <;> exact ⟨rfl, rfl, rfl⟩

lemma vfsPipeHandleAlloc_spec {pipeIdx : Fin 64} {writable : Bool} {i : Fin 128}
    (h : vfsPipeHandleAlloc s pipeIdx writable = some (t, i)) :
    s.SameTables t ∧ (s.pipeHandles i).used = false ∧
      ∀ k, (t.pipeHandles k).used = if k = i then true else (s.pipeHandles k).used := by
  simp only [vfsPipeHandleAlloc, Option.map_eq_some_iff, Prod.mk.injEq] at h
  obtain ⟨j, hj, rfl, rfl⟩ := h
  refine ⟨⟨rfl, rfl, rfl⟩, by simpa using List.find?_some hj, fun k => ?_⟩
  by_cases hk : k = j
  · subst hk
    simp [Vfs.setPipe, Vfs.setPipeHandle]
  · simp [Vfs.setPipe, Vfs.setPipeHandle, hk]

lemma setFdUsed_rest (u : Bool) (g : Option (Fin 512)) :
    (s.setFdUsed u g).taskFdMap = s.taskFdMap ∧ (s.setFdUsed u g).files = s.files ∧
      (s.setFdUsed u g).pipeHandles = s.pipeHandles := by
  cases g <;> exact ⟨rfl, rfl, rfl⟩

lemma setFdUsed_fdTable_congr (h : s.fdTable = t.fdTable) (u : Bool)
    (g : Option (Fin 512)) : (s.setFdUsed u g).fdTable = (t.setFdUsed u g).fdTable := by
  cases g with
  | none => exact h
  | some g => simp only [Vfs.setFdUsed, Vfs.setFd, h]

lemma vfsPipeAbort_spec (s : Vfs β σ) (task : Fin 8) (rg wg : Option (Fin 512))
    (rl : Option (Fin 256)) (rh wh : Fin 128) :
    (vfsPipeAbort s task rg wg rl rh wh).fdTable =
        ((s.setFdUsed false rg).setFdUsed false wg).fdTable ∧
      (vfsPipeAbort s task rg wg rl rh wh).files = s.files ∧
      (∀ p, (vfsPipeAbort s task rg wg rl rh wh).taskFdMap p =
        if some p = rl.map (fun i => (task, i)) ∧ s.taskFdMap p = -2 then -1
        else s.taskFdMap p) ∧
      ∀ k, ((vfsPipeAbort s task rg wg rl rh wh).pipeHandles k).used =
        if k = wh then false else if k = rh then false else (s.pipeHandles k).used := by
  have hr := setFdUsed_rest (s := s) false rg
  have hw := setFdUsed_rest (s := s.setFdUsed false rg) false wg
  unfold vfsPipeAbort
  dsimp only
  generalize hs' : (s.setFdUsed false rg).setFdUsed false wg = s' at hw ⊢
  have hmap' : s'.taskFdMap = s.taskFdMap := hw.1.trans hr.1
  have hfiles' : s'.files = s.files := hw.2.1.trans hr.2.1
  have hpipes' : s'.pipeHandles = s.pipeHandles := hw.2.2.trans hr.2.2
  generalize hu : s'.unmarkTaskFd task rl = u
  have hsame := (pipeCloseBackend_same (s := u) rh).trans (pipeCloseBackend_same wh)
  obtain ⟨hu₁, hu₂, hu₃, hu₄⟩ : u.fdTable = s'.fdTable ∧ u.files = s'.files ∧
      u.pipeHandles = s'.pipeHandles ∧ ∀ p, u.taskFdMap p =
        if some p = rl.map (fun i => (task, i)) ∧ s'.taskFdMap p = -2 then -1
        else s'.taskFdMap p := by
    subst hu
    cases rl with
    | none => simp [Vfs.unmarkTaskFd]
    | some i =>
      simp only [Vfs.unmarkTaskFd]
      split_ifs with hmark
      · refine ⟨rfl, rfl, rfl, fun p => ?_⟩
        by_cases hp : p = (task, i)
        · subst hp
          simp [Vfs.setTaskFd, hmark]
        · simp [Vfs.setTaskFd, hp]
      · refine ⟨rfl, rfl, rfl, fun p => ?_⟩
        rw [if_neg]
        rintro ⟨hp, hmark'⟩
        simp only [Option.map_some, Option.some.injEq] at hp
        rw [hp] at hmark'
        exact hmark hmark'
  refine ⟨hsame.fdTable.trans hu₁, hsame.files.trans (hu₂.trans hfiles'), fun p => ?_, fun k => ?_⟩
  · rw [hsame.taskFdMap, hu₄, hmap']
  · rw [pipeCloseBackend_used, pipeCloseBackend_used, hu₃, hpipes']

lemma vfsPipeDescriptors_eq_abort (task : Fin 8) (rh wh : Fin 128) :
    ∃ s₁ s₂ s₃ : Vfs β σ, s₁ = s.setFdUsed true (allocGlobalFd s) ∧
      s₂ = s₁.setFdUsed true (allocGlobalFd s₁) ∧
      s₃ = s₂.markTaskFd task (allocTaskFd s₂ task) ∧
      vfsPipeDescriptors s task rh wh =
        (vfsPipeAbort s₃ task (allocGlobalFd s) (allocGlobalFd s₁) (allocTaskFd s₂ task) rh wh,
          .error .noSpace) := by
  refine ⟨_, _, _, rfl, rfl, rfl, ?_⟩
  unfold vfsPipeDescriptors
  dsimp only
  generalize hs₂ : (s.setFdUsed true (allocGlobalFd s)).setFdUsed true
    (allocGlobalFd (s.setFdUsed true (allocGlobalFd s))) = s₂
  cases hl : allocTaskFd s₂ task with
  | none => cases allocGlobalFd s <;> cases allocGlobalFd (s.setFdUsed true _) <;> rfl
  | some i =>
    rw [Vfs.markTaskFd, allocTaskFd_setTaskFd hl]
    cases allocGlobalFd s with
    | none => cases allocGlobalFd (s.setFdUsed true _) <;> rfl
    | some rg =>
      cases allocGlobalFd (s.setFdUsed true _) with
      | none => rfl
      | some wg => simp

/-- What is left of a `vfs_pipe`: its two handles are closed again. -/
lemma vfsPipeDescriptors_spec (task : Fin 8) (rh wh : Fin 128) :
    (vfsPipeDescriptors s task rh wh).1.fdTable = s.fdTable ∧
      (vfsPipeDescriptors s task rh wh).1.files = s.files ∧
      (∀ p, (vfsPipeDescriptors s task rh wh).1.taskFdMap p = s.taskFdMap p ∨
        (vfsPipeDescriptors s task rh wh).1.taskFdMap p < 0 ∧ s.taskFdMap p < 0) ∧
      ∀ k, ((vfsPipeDescriptors s task rh wh).1.pipeHandles k).used =
        if k = wh then false else if k = rh then false else (s.pipeHandles k).used := by
  obtain ⟨s₁, s₂, s₃, h₁, h₂, h₃, heq⟩ := vfsPipeDescriptors_eq_abort (s := s) task rh wh
  rw [heq]
  have hundo := setFdUsed_undo rfl h₁ rfl h₂
  have hr₁ := setFdUsed_rest (s := s) true (allocGlobalFd s)
  have hr₂ := setFdUsed_rest (s := s₁) true (allocGlobalFd s₁)
  rw [← h₁] at hr₁
  rw [← h₂] at hr₂
  have hmap₂ : s₂.taskFdMap = s.taskFdMap := hr₂.1.trans hr₁.1
  obtain ⟨hf₃, hh₃, hfd₃, hm₃⟩ : s₃.files = s₂.files ∧ s₃.pipeHandles = s₂.pipeHandles ∧
      s₃.fdTable = s₂.fdTable ∧ ∀ p, s₃.taskFdMap p = s₂.taskFdMap p ∨
        s₃.taskFdMap p = -2 ∧ s₂.taskFdMap p < 0 ∧ ∃ i, allocTaskFd s₂ task = some i ∧
          p = (task, i) := by
    cases hl : allocTaskFd s₂ task with
    | none =>
      rw [hl] at h₃
      subst h₃
      exact ⟨rfl, rfl, rfl, fun _ => Or.inl rfl⟩
    | some i =>
      rw [hl] at h₃
      subst h₃
      refine ⟨rfl, rfl, rfl, fun p => ?_⟩
      by_cases hp : p = (task, i)
      · subst hp
        exact Or.inr ⟨update_self _ _ _, allocTaskFd_neg hl, i, rfl, rfl⟩
      · exact Or.inl (update_of_ne hp _ _)
  obtain ⟨ha₁, ha₂, ha₃, ha₄⟩ := vfsPipeAbort_spec s₃ task (allocGlobalFd s) (allocGlobalFd s₁)
    (allocTaskFd s₂ task) rh wh
  refine ⟨?_, ?_, fun p => ?_, fun k => ?_⟩
  · rw [ha₁, ← hundo]
    exact setFdUsed_fdTable_congr (setFdUsed_fdTable_congr hfd₃ _ _) _ _
  · rw [ha₂, hf₃, hr₂.2.1, hr₁.2.1]
  · rw [ha₃, ← hmap₂]
    rcases hm₃ p with he | ⟨he, hneg, i, hi, rfl⟩
    · split_ifs with hp
      · -- only a place that holds the mark is cleared
        obtain ⟨-, hmark⟩ := hp
        exact Or.inr ⟨by omega, by rw [← he]; omega⟩
      · exact Or.inl he
    · rw [if_pos ⟨hi.symm ▸ rfl, he⟩]
      exact Or.inr ⟨by omega, hneg⟩
  · rw [ha₄, hh₃, hr₂.2.2, hr₁.2.2]

lemma Vfs.Consistent.of_pipes (hs : s.Consistent isOpen good) (hfd : t.fdTable = s.fdTable)
    (hfiles : t.files = s.files)
    (hmap : ∀ p, t.taskFdMap p = s.taskFdMap p ∨ t.taskFdMap p < 0 ∧ s.taskFdMap p < 0)
    (hused : ∀ k, (t.pipeHandles k).used = (s.pipeHandles k).used) :
    t.Consistent isOpen good := by
  refine hs.of_same ⟨by rw [hfiles]; exact hs.good, hfd, hmap, fun o h => ?_⟩
  cases o with
  | pipe => simp only [Vfs.HandleOpen, hused]
  | file b => simp only [Vfs.HandleOpen, hfiles]

lemma vfsPipeAllocSlot_spec {i : Fin 64} (h : vfsPipeAllocSlot s = some (t, i)) :
    s.SameTables t ∧ t.pipeHandles = s.pipeHandles := by
  simp only [vfsPipeAllocSlot, Option.map_eq_some_iff, Prod.mk.injEq] at h
  obtain ⟨j, -, rfl, rfl⟩ := h
  exact ⟨⟨rfl, rfl, rfl⟩, rfl⟩

lemma vfsPipe_oneHandle_consistent (hs : s.Consistent isOpen good) {t u : Vfs β σ} {w : Bool}
    {pipeIdx : Fin 64} {i : Fin 128} (hst : s.SameTables t) (hp : t.pipeHandles = s.pipeHandles)
    (ha : vfsPipeHandleAlloc t pipeIdx w = some (u, i)) (p : VfsPipe) :
    ((pipeCloseBackend u i).1.setPipe pipeIdx p).Consistent isOpen good := by
  obtain ⟨htu, hfree, hused⟩ := vfsPipeHandleAlloc_spec ha
  have hsame := (hst.trans htu).trans (pipeCloseBackend_same (s := u) i)
  refine hs.of_pipes hsame.fdTable hsame.files (fun q => Or.inl ?_) fun k => ?_
  · exact congrFun hsame.taskFdMap q
  · simp only [Vfs.setPipe]
    rw [pipeCloseBackend_used, hused, ← hp]
    split_ifs with hk
    · rw [hk, hfree]
    · rfl

lemma vfsPipe_consistent (hs : s.Consistent isOpen good) (osCurrentTask : Int) :
    (vfsPipe s osCurrentTask).1.Consistent isOpen good := by
  unfold vfsPipe
  dsimp only
  split
  · exact hs
  rename_i t pipeIdx hslot
  obtain ⟨hst, hp⟩ := vfsPipeAllocSlot_spec hslot
  split
  · split
    · refine hs.of_pipes hst.fdTable hst.files (fun q => Or.inl (congrFun hst.taskFdMap q)) fun k => ?_
      simp only [Vfs.setPipe, hp]
    · rename_i u wh hw
      exact vfsPipe_oneHandle_consistent hs hst hp hw _
  · rename_i u rh hr
    split
    · exact vfsPipe_oneHandle_consistent hs hst hp hr _
    · rename_i v wh hw
      obtain ⟨htu, hrfree, hrused⟩ := vfsPipeHandleAlloc_spec hr
      obtain ⟨huv, hwfree, hwused⟩ := vfsPipeHandleAlloc_spec hw
      have hsame := (hst.trans htu).trans huv
      obtain ⟨hfd, hfiles, hmap, hused⟩ :=
        vfsPipeDescriptors_spec (s := v) (currentTaskId osCurrentTask) rh wh
      rw [hsame.fdTable] at hfd
      rw [hsame.files] at hfiles
      rw [hsame.taskFdMap] at hmap
      refine hs.of_pipes hfd hfiles hmap fun k => ?_
      -- both handles were free before and are free again
      have hwr : wh ≠ rh := by
        rintro rfl
        simp [hrused] at hwfree
      rw [hused, hwused, hrused, ← hp]
      split_ifs with hkw hkr
      · rw [hkw]
        simpa [hrused, hwr] using hwfree.symm
      · rw [hkr, hrfree]
      · rfl

end

/-! ### Runs -/

/-- The operations on descriptors, with mounts, so that each backend can be reached. -/
inductive FdOp (β : Type) where
  | mount (mountPath : CString) (b : β)
  | umount (mountPath : CString)
  | openFile (osCurrentTask : Int) (path : CString) (flags : UInt32)
  | close (osCurrentTask fd : Int)
  | dup (osCurrentTask fd : Int)
  | dup2 (osCurrentTask fd newfd : Int)
  | pipe (osCurrentTask : Int)
  | closeAllForTask (taskId : Int)
  | cloneTaskFds (srcTaskId dstTaskId : Int)

def fdStep (ops : β → VfsBackendOps σ) (s : Vfs β σ) : FdOp β → Vfs β σ × VfsResult
  | .mount path b => vfsMount s path b
  | .umount path => vfsUmount s path
  | .openFile task path flags => vfsOpen ops s task path flags
  | .close task fd => vfsClose ops s task fd
  | .dup task fd => vfsDup s task fd
  | .dup2 task fd newfd => vfsDup2 ops s task fd newfd
  | .pipe task => ((vfsPipe s task).1, (vfsPipe s task).2.map fun fds => fds.1)
  | .closeAllForTask taskId => (vfsCloseAllForTask ops s taskId, .ok 0)
  | .cloneTaskFds src dst => vfsCloneTaskFds s src dst

/-- Descriptors are cloned only into a task that has none open. -/
def ClonesIntoEmpty (s : Vfs β σ) : FdOp β → Prop
  | .cloneTaskFds _ dst => ∀ t, taskIndex dst = some t → ∀ i, s.taskFdMap (t, i) < 0
  | _ => True

lemma fdStep_consistent (laws : HandleLaws ops isOpen good) (s : Vfs β σ) (o : FdOp β)
    (hs : s.Consistent isOpen good) (ho : ClonesIntoEmpty s o) :
    (fdStep ops s o).1.Consistent isOpen good := by
  cases o with
  | mount path b =>
    simp only [fdStep, vfsMount]
    split_ifs
    · exact hs
    · split
      · exact hs.setMount _ _
      · split
        · exact hs.setMount _ _
        · exact hs
  | umount path =>
    simp only [fdStep, vfsUmount]
    split_ifs
    · exact hs
    · exact hs
    · split
      · exact hs.setMount _ _
      · exact hs
  | openFile task path flags => exact vfsOpen_consistent laws hs task path flags
  | close task fd => exact vfsClose_consistent laws hs task fd
  | dup task fd => exact vfsDup_consistent hs task fd
  | dup2 task fd newfd => exact vfsDup2_consistent laws hs task fd newfd
  | pipe task => exact vfsPipe_consistent hs task
  | closeAllForTask taskId => exact vfsCloseAllForTask_consistent laws hs taskId
  | cloneTaskFds src dst => exact vfsCloneTaskFds_consistent hs ho

lemma vfsInit_consistent (s : Vfs β σ) {initFiles : σ → σ} (h : good (initFiles s.files))
    (root : β) : (vfsInit s initFiles root).Consistent isOpen good := by
  have hreset : (s.reset initFiles).Consistent isOpen good := by
    apply Vfs.Consistent.of_counts
    · exact h
    · intro g
      rw [Table.count_eq_zero_iff.mpr fun p => by simp only [Vfs.reset]; omega]
      rfl
    · intro g
      simp [Vfs.reset, VfsFd.closed]
    · intro p
      simp only [Vfs.reset]
      omega
    · intro g hg
      cases hg
    · intro g g' hg
      cases hg
  rw [vfsInit, vfsMount]
  split_ifs
  · exact hreset
  · split
    · exact hreset.setMount _ _
    · split
      · exact hreset.setMount _ _
      · exact hreset

end NeuroSpark
