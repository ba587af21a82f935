import NeuroSpark.Vfs.Descriptors

/-!
# The descriptors of other tasks

A call of one task changes no descriptor of another. When all descriptors of a task are closed it
has none, and when they are cloned from another task it has only descriptors of that one.
-/

namespace NeuroSpark

variable {β σ : Type} {ops : β → VfsBackendOps σ} {s t u : Vfs β σ}

/-- The tasks other than `task` have the descriptors in `t` that they have in `s`. A place that is
not in use may hold another negative number. -/
def Vfs.OnlyOf (task : Fin 8) (s t : Vfs β σ) : Prop :=
  ∀ p : Fin 8 × Fin 256, p.1 ≠ task →
    t.taskFdMap p = s.taskFdMap p ∨ t.taskFdMap p < 0 ∧ s.taskFdMap p < 0

/-- The task has no descriptor. -/
def Vfs.NoFds (s : Vfs β σ) (task : Fin 8) : Prop := ∀ i, s.taskFdMap (task, i) < 0

namespace Vfs

variable {task : Fin 8}

lemma OnlyOf.of_map (h : t.taskFdMap = s.taskFdMap) : s.OnlyOf task t :=
  fun p _ => Or.inl (congrFun h p)

lemma OnlyOf.refl (s : Vfs β σ) : s.OnlyOf task s := OnlyOf.of_map rfl

lemma OnlyOf.trans (h : s.OnlyOf task t) (h' : t.OnlyOf task u) : s.OnlyOf task u := by
  intro p hp
  rcases h p hp with he | ⟨hneg, hneg'⟩
  · rw [← he]
    exact h' p hp
  · rcases h' p hp with he' | ⟨hneg'', -⟩
    · exact Or.inr ⟨he' ▸ hneg, hneg'⟩
    · exact Or.inr ⟨hneg'', hneg'⟩

lemma OnlyOf.setTaskFd (h : s.OnlyOf task t) (i : Fin 256) (v : Int) :
    s.OnlyOf task (t.setTaskFd (task, i) v) := by
  intro p hp
  have hne : p ≠ (task, i) := fun he => hp (by rw [he])
  have hsame : (t.setTaskFd (task, i) v).taskFdMap p = t.taskFdMap p := Function.update_of_ne hne ..
  rw [hsame]
  exact h p hp

lemma OnlyOf.noFds {task' : Fin 8} (h : s.OnlyOf task t) (hne : task' ≠ task)
    (hs : s.NoFds task') : t.NoFds task' := by
  intro i
  rcases h (task', i) hne with he | ⟨hneg, -⟩
  · rw [he]
    exact hs i
  · exact hneg

end Vfs

lemma currentTaskId_cast (task : Fin 8) : currentTaskId (task : Nat) = task := by
  unfold currentTaskId
  rw [dif_pos (by omega)]
  rfl

lemma taskIndex_cast (task : Fin 8) : taskIndex (task : Nat) = some task := by
  unfold taskIndex
  rw [dif_pos (by omega)]
  rfl

/-! ### One call -/

lemma closeBackend_taskFdMap (o : VfsOps β) (handle : Option Nat) :
    (s.closeBackend ops o handle).1.taskFdMap = s.taskFdMap := by
  unfold Vfs.closeBackend
  split
  · rfl
  · exact (pipeCloseBackend_same _).taskFdMap
  · rfl

lemma closeGlobalFd_taskFdMap (gfd : Int) :
    (closeGlobalFd ops s gfd).1.taskFdMap = s.taskFdMap := by
  unfold closeGlobalFd
  split
  · rfl
  · dsimp only
    split_ifs
    · rfl
    · exact closeBackend_taskFdMap _ _

section

variable {task : Fin 8}

lemma closeTaskSlot_onlyOf (i : Fin 256) : s.OnlyOf task (closeTaskSlot ops task s i) := by
  unfold closeTaskSlot
  dsimp only
  split_ifs
  · exact ((Vfs.OnlyOf.refl s).setTaskFd i (-1)).trans
      (Vfs.OnlyOf.of_map (closeGlobalFd_taskFdMap _))
  · exact Vfs.OnlyOf.refl s

lemma vfsOpen_onlyOf (path : CString) (flags : UInt32) :
    s.OnlyOf task (vfsOpen ops s (task : Nat) path flags).1 := by
  unfold vfsOpen
  rw [currentTaskId_cast]
  dsimp only
  split
  · exact Vfs.OnlyOf.refl s
  split
  · exact Vfs.OnlyOf.refl s
  split
  · exact Vfs.OnlyOf.of_map rfl
  split
  · rename_i g i _ _
    exact (Vfs.OnlyOf.of_map rfl).setTaskFd i g
  · exact Vfs.OnlyOf.of_map rfl

lemma vfsClose_onlyOf (fd : Int) : s.OnlyOf task (vfsClose ops s (task : Nat) fd).1 := by
  unfold vfsClose
  rw [currentTaskId_cast]
  dsimp only
  split
  · exact Vfs.OnlyOf.refl s
  split_ifs
  · exact Vfs.OnlyOf.refl s
  · exact ((Vfs.OnlyOf.refl s).setTaskFd _ (-1)).trans
      (Vfs.OnlyOf.of_map (closeGlobalFd_taskFdMap _))

lemma vfsDup_onlyOf (fd : Int) : s.OnlyOf task (vfsDup s (task : Nat) fd).1 := by
  unfold vfsDup
  rw [currentTaskId_cast]
  dsimp only
  split
  · exact Vfs.OnlyOf.refl s
  split
  · exact Vfs.OnlyOf.refl s
  · exact ((Vfs.OnlyOf.refl s).setTaskFd _ _).trans (Vfs.OnlyOf.of_map rfl)

lemma vfsDup2_onlyOf (fd newfd : Int) : s.OnlyOf task (vfsDup2 ops s (task : Nat) fd newfd).1 := by
  unfold vfsDup2
  rw [currentTaskId_cast]
  dsimp only
  split
  · exact Vfs.OnlyOf.refl s
  split
  · exact Vfs.OnlyOf.refl s
  split
  · exact Vfs.OnlyOf.refl s
  rename_i i _ _
  have hclosed : s.OnlyOf task (if 0 ≤ s.taskFdMap (task, i) then
      (vfsClose ops s (task : Nat) newfd).1 else s) := by
    split_ifs
    · exact vfsClose_onlyOf newfd
    · exact Vfs.OnlyOf.refl s
  exact (hclosed.setTaskFd _ _).trans (Vfs.OnlyOf.of_map rfl)

lemma vfsPipe_onlyOf : s.OnlyOf task (vfsPipe s (task : Nat)).1 := by
  unfold vfsPipe
  dsimp only
  split
  · exact Vfs.OnlyOf.refl s
  rename_i s₁ pipeIdx h₁
  have hsame₁ := (vfsPipeAllocSlot_spec h₁).1
  split
  · split
    · exact Vfs.OnlyOf.of_map hsame₁.taskFdMap
    · rename_i s₂ w h₂
      have hsame₂ := hsame₁.trans (vfsPipeHandleAlloc_spec h₂).1
      exact Vfs.OnlyOf.of_map (hsame₂.trans (pipeCloseBackend_same _)).taskFdMap
  · rename_i s₂ r h₂
    have hsame₂ := hsame₁.trans (vfsPipeHandleAlloc_spec h₂).1
    split
    · exact Vfs.OnlyOf.of_map (hsame₂.trans (pipeCloseBackend_same _)).taskFdMap
    · rename_i s₃ w h₃
      have hsame₃ := hsame₂.trans (vfsPipeHandleAlloc_spec h₃).1
      refine (Vfs.OnlyOf.of_map hsame₃.taskFdMap).trans fun p _ => ?_
      exact (vfsPipeDescriptors_spec _ _ _).2.2.1 p

lemma vfsRead_taskFdMap (fd : Int) (size : Nat) :
    (vfsRead ops s (task : Nat) fd size).1.taskFdMap = s.taskFdMap := by
  unfold vfsRead
  split
  · rfl
  split
  · rfl
  · unfold pipeReadBackend
    dsimp only
    split
    · rfl
    · split_ifs <;> rfl
  · rfl

lemma vfsWrite_taskFdMap (fd : Int) (buf : List UInt8) :
    (vfsWrite ops s (task : Nat) fd buf).1.taskFdMap = s.taskFdMap := by
  unfold vfsWrite
  split
  · rfl
  split
  · rfl
  · unfold pipeWriteBackend
    dsimp only
    split
    · rfl
    · split_ifs <;> rfl
  · rfl

lemma vfsLseek_taskFdMap (fd offset whence : Int) :
    (vfsLseek ops s (task : Nat) fd offset whence).1.taskFdMap = s.taskFdMap := by
  unfold vfsLseek
  split
  · rfl
  · split <;> rfl

lemma vfsFtruncate_taskFdMap (fd : Int) (size : Nat) :
    (vfsFtruncate ops s (task : Nat) fd size).1.taskFdMap = s.taskFdMap := by
  unfold vfsFtruncate
  split
  · rfl
  · split <;> rfl

lemma vfsFcntl_taskFdMap (fd cmd : Int) (arg : UInt32) :
    (vfsFcntl s (task : Nat) fd cmd arg).1.taskFdMap = s.taskFdMap := by
  unfold vfsFcntl
  dsimp only
  split_ifs <;> rfl

/-! ### All descriptors of a task -/

lemma foldl_closeTaskSlot (l : List (Fin 256)) (s : Vfs β σ) :
    s.OnlyOf task (l.foldl (closeTaskSlot ops task) s) ∧
      ∀ i, i ∈ l ∨ s.taskFdMap (task, i) < 0 →
        (l.foldl (closeTaskSlot ops task) s).taskFdMap (task, i) < 0 := by
  induction l generalizing s with
  | nil =>
    refine ⟨Vfs.OnlyOf.refl s, fun i hi => ?_⟩
    simpa using hi
  | cons a l ih =>
    obtain ⟨honly, hclosed⟩ := ih (closeTaskSlot ops task s a)
    refine ⟨(closeTaskSlot_onlyOf a).trans honly, fun i hi => hclosed i ?_⟩
    have hmap : (closeTaskSlot ops task s a).taskFdMap (task, i) =
        if i = a ∧ 0 ≤ s.taskFdMap (task, a) then -1 else s.taskFdMap (task, i) := by
      unfold closeTaskSlot
      by_cases hopen : 0 ≤ s.taskFdMap (task, a)
      · rw [if_pos hopen, closeGlobalFd_taskFdMap]
        by_cases hia : i = a
        · simp [Vfs.setTaskFd, hia, hopen]
        · simp [Vfs.setTaskFd, hia]
      · rw [if_neg hopen, if_neg (fun h => hopen h.2)]
    rw [hmap]
    by_cases hia : i = a
    · right
      subst hia
      split_ifs with hopen
      · decide
      · simpa using hopen
    · rw [if_neg fun h => hia h.1]
      rcases hi with hi | hi
      · exact Or.inl ((List.mem_cons.1 hi).resolve_left hia)
      · exact Or.inr hi

lemma vfsCloseAllForTask_onlyOf : s.OnlyOf task (vfsCloseAllForTask ops s (task : Nat)) := by
  rw [vfsCloseAllForTask, taskIndex_cast]
  exact (foldl_closeTaskSlot _ s).1

lemma vfsCloseAllForTask_noFds : (vfsCloseAllForTask ops s (task : Nat)).NoFds task := by
  rw [vfsCloseAllForTask, taskIndex_cast]
  have hall : ∀ i : Fin 256, i ∈ List.finRange 256 := List.mem_finRange
  generalize List.finRange 256 = slots at hall ⊢
  intro i
  exact (foldl_closeTaskSlot slots s).2 i (Or.inl (hall i))

lemma foldl_setTaskFd (dst : Fin 8) (l : List (Fin 256)) (s : Vfs β σ) (p : Fin 8 × Fin 256) :
    (l.foldl (fun s i => s.setTaskFd (dst, i) (-1)) s).taskFdMap p =
      if p.1 = dst ∧ p.2 ∈ l then -1 else s.taskFdMap p := by
  induction l generalizing s with
  | nil => simp
  | cons a l ih =>
    rw [List.foldl_cons, ih]
    obtain ⟨task, i⟩ := p
    by_cases hp : (task, i) = (dst, a)
    · obtain ⟨rfl, rfl⟩ := Prod.mk.inj hp
      simp [Vfs.setTaskFd]
    · have hmem : task = dst ∧ i ∈ a :: l ↔ task = dst ∧ i ∈ l := by
        simp only [List.mem_cons]
        constructor
        · rintro ⟨rfl, rfl | hi⟩
          · exact absurd rfl hp
          · exact ⟨rfl, hi⟩
        · exact fun h => ⟨h.1, Or.inr h.2⟩
      simp only [hmem, Vfs.setTaskFd, Function.update_of_ne hp]

/-- Slots of the destination hold what they held, or what the source holds there. -/
lemma foldl_cloneTaskSlot {src dst : Fin 8} (hne : src ≠ dst) (l : List (Fin 256))
    (s : Vfs β σ) :
    s.OnlyOf dst (l.foldl (cloneTaskSlot src dst) s) ∧
      (∀ i, (l.foldl (cloneTaskSlot src dst) s).taskFdMap (src, i) = s.taskFdMap (src, i)) ∧
      ∀ i, (l.foldl (cloneTaskSlot src dst) s).taskFdMap (dst, i) = s.taskFdMap (dst, i) ∨
        (l.foldl (cloneTaskSlot src dst) s).taskFdMap (dst, i) = s.taskFdMap (src, i) := by
  induction l generalizing s with
  | nil => exact ⟨Vfs.OnlyOf.refl s, fun _ => rfl, fun _ => Or.inl rfl⟩
  | cons a l ih =>
    obtain ⟨honly, hsrc, hdst⟩ := ih (cloneTaskSlot src dst s a)
    have hother : ∀ p : Fin 8 × Fin 256, p ≠ (dst, a) →
        (cloneTaskSlot src dst s a).taskFdMap p = s.taskFdMap p := fun p => cloneTaskSlot_other
    have hslot : (cloneTaskSlot src dst s a).taskFdMap (dst, a) = s.taskFdMap (dst, a) ∨
        (cloneTaskSlot src dst s a).taskFdMap (dst, a) = s.taskFdMap (src, a) := by
      unfold cloneTaskSlot
      dsimp only
      split_ifs with hopen hused
      · simp only [Vfs.setFd, Vfs.setTaskFd, Function.update_self]
        omega
      · exact Or.inl rfl
      · exact Or.inl rfl
    have hsrc' : ∀ i, (cloneTaskSlot src dst s a).taskFdMap (src, i) = s.taskFdMap (src, i) :=
      fun i => hother (src, i) fun h => hne (Prod.mk.inj h).1
    refine ⟨Vfs.OnlyOf.trans (fun p hp => Or.inl (hother p fun h => hp (by rw [h]))) honly,
      fun i => (hsrc i).trans (hsrc' i), fun i => ?_⟩
    rw [List.foldl_cons]
    rcases hdst i with h | h
    · rw [h]
      by_cases hia : i = a
      · rw [hia]
        exact hslot
      · exact Or.inl (hother (dst, i) fun h => hia (Prod.mk.inj h).2)
    · exact Or.inr (h.trans (hsrc' i))

lemma vfsCloneTaskFds_spec {src dst : Fin 8} (hne : src ≠ dst) :
    s.OnlyOf dst (vfsCloneTaskFds s (src : Nat) (dst : Nat)).1 ∧
      ∀ i, (vfsCloneTaskFds s (src : Nat) (dst : Nat)).1.taskFdMap (dst, i) < 0 ∨
        (vfsCloneTaskFds s (src : Nat) (dst : Nat)).1.taskFdMap (dst, i) =
          (vfsCloneTaskFds s (src : Nat) (dst : Nat)).1.taskFdMap (src, i) := by
  simp only [vfsCloneTaskFds, taskIndex_cast]
  set s' := (List.finRange 256).foldl (fun s i => s.setTaskFd (dst, i) (-1)) s with hs'
  have hcleared : ∀ p, s'.taskFdMap p = if p.1 = dst then -1 else s.taskFdMap p := by
    intro p
    rw [hs', foldl_setTaskFd]
    simp
  obtain ⟨honly, hsrc, hdst⟩ := foldl_cloneTaskSlot hne (List.finRange 256) s'
  refine ⟨Vfs.OnlyOf.trans (fun p hp => Or.inl ?_) honly, fun i => ?_⟩
  · rw [hcleared, if_neg hp]
  · rcases hdst i with h | h
    · left
      rw [h, hcleared, if_pos rfl]
      decide
    · exact Or.inr (h.trans (hsrc i).symm)

end

end NeuroSpark
