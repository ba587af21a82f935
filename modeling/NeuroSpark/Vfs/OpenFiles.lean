import NeuroSpark.Vfs.Tasks

/-!
# The file behind a descriptor

With which flags the file of each descriptor was opened, and what the operations on descriptors do
to it. That an entry is not given away while a descriptor refers to it needs only that its reference
count is not too small: a fork that finds no stack for the child leaves counts that are too large.
-/

namespace NeuroSpark

open Function (update update_self update_of_ne)

variable {β σ : Type} {ops : β → VfsBackendOps σ}

/-- Every descriptor in use refers to an open entry, which counts it. -/
structure Vfs.Referenced (s : Vfs β σ) : Prop where
  mapped : ∀ p, 0 ≤ s.taskFdMap p → ∃ x, openGlobalFd s (s.taskFdMap p) = some x
  counted : ∀ g : Fin 512, Table.count s.taskFdMap (g : Int) ≤ (s.fdTable g).refCount

/-- The flags with which the file of a descriptor was opened. -/
def Vfs.openedWith (s : Vfs β σ) (p : Fin 8 × Fin 256) : Option UInt32 :=
  (openGlobalFd s (s.taskFdMap p)).map fun x => (s.fdTable x.1).flags

namespace Vfs

variable {s t : Vfs β σ} {p q : Fin 8 × Fin 256} {g : Fin 512} {o : VfsOps β}

lemma openGlobalFd_of_neg {gfd : Int} (h : gfd < 0) : openGlobalFd s gfd = none :=
  dif_neg fun hrange => absurd hrange.1 (not_le.2 h)

lemma openedWith_of_neg (h : s.taskFdMap p < 0) : s.openedWith p = none := by
  rw [openedWith, openGlobalFd_of_neg h, Option.map_none]

lemma openedWith_of_open (h : openGlobalFd s (s.taskFdMap p) = some (g, o)) :
    s.openedWith p = some (s.fdTable g).flags := by
  rw [openedWith, h, Option.map_some]

/-- The descriptor refers to an entry with the same file. -/
structure SameFile (s t : Vfs β σ) (p : Fin 8 × Fin 256) : Prop where
  map : t.taskFdMap p = s.taskFdMap p
  used : ∀ g : Fin 512, s.taskFdMap p = g → (t.fdTable g).used = (s.fdTable g).used
  ops : ∀ g : Fin 512, s.taskFdMap p = g → (t.fdTable g).ops = (s.fdTable g).ops
  flags : ∀ g : Fin 512, s.taskFdMap p = g → (t.fdTable g).flags = (s.fdTable g).flags

lemma SameFile.openGlobalFd (h : s.SameFile t p) :
    openGlobalFd t (t.taskFdMap p) = openGlobalFd s (s.taskFdMap p) := by
  rw [h.map]
  ext ⟨g, o⟩
  rw [openGlobalFd_eq_some, openGlobalFd_eq_some]
  refine and_congr_right fun hg => ?_
  rw [h.used g hg, h.ops g hg]

lemma SameFile.refl (s : Vfs β σ) (p : Fin 8 × Fin 256) : s.SameFile s p :=
  ⟨rfl, fun _ _ => rfl, fun _ _ => rfl, fun _ _ => rfl⟩

lemma SameFile.trans {u : Vfs β σ} (h : s.SameFile t p) (h' : t.SameFile u p) : s.SameFile u p where
  map := h'.map.trans h.map
  used g hg := (h'.used g (h.map.trans hg)).trans (h.used g hg)
  ops g hg := (h'.ops g (h.map.trans hg)).trans (h.ops g hg)
  flags g hg := (h'.flags g (h.map.trans hg)).trans (h.flags g hg)

lemma SameFile.openedWith (h : s.SameFile t p) : t.openedWith p = s.openedWith p := by
  rw [Vfs.openedWith, Vfs.openedWith, h.openGlobalFd]
  cases hopen : NeuroSpark.openGlobalFd s (s.taskFdMap p) with
  | none => rfl
  | some x =>
    obtain ⟨hg, -⟩ := openGlobalFd_eq_some.1 hopen
    rw [Option.map_some, Option.map_some, h.flags x.1 hg]

/-! ### The changes -/

/-- Free places in the maps may hold another negative number. -/
structure SameMaps (s t : Vfs β σ) : Prop where
  fdTable : t.fdTable = s.fdTable
  taskFdMap : ∀ p, t.taskFdMap p = s.taskFdMap p ∨ t.taskFdMap p < 0 ∧ s.taskFdMap p < 0

lemma SameMaps.of_eq (hfd : t.fdTable = s.fdTable) (hmap : t.taskFdMap = s.taskFdMap) :
    s.SameMaps t := ⟨hfd, fun p => Or.inl (congrFun hmap p)⟩

lemma SameMaps.openGlobalFd (h : s.SameMaps t) (gfd : Int) :
    openGlobalFd t gfd = openGlobalFd s gfd := by
  rw [NeuroSpark.openGlobalFd, NeuroSpark.openGlobalFd, h.fdTable]

lemma SameMaps.openedWith (h : s.SameMaps t) : t.openedWith = s.openedWith := by
  funext p
  rcases h.taskFdMap p with hsame | ⟨hneg, hneg'⟩
  · rw [Vfs.openedWith, Vfs.openedWith, h.openGlobalFd, hsame, h.fdTable]
  · rw [openedWith_of_neg hneg, openedWith_of_neg hneg']

lemma SameMaps.referenced (h : s.SameMaps t) (hs : s.Referenced) : t.Referenced where
  mapped p hp := by
    rcases h.taskFdMap p with hsame | ⟨hneg, -⟩
    · rw [h.openGlobalFd, hsame]
      exact hs.mapped p (hsame ▸ hp)
    · omega
  counted g := by
    have hcount : Table.count t.taskFdMap (g : Int) = Table.count s.taskFdMap (g : Int) := by
      unfold Table.count
      congr 1
      refine Finset.filter_congr fun p _ => ?_
      rcases h.taskFdMap p with hsame | ⟨hneg, hneg'⟩
      · rw [hsame]
      · exact iff_of_false (by omega) (by omega)
    rw [hcount, h.fdTable]
    exact hs.counted g

section

-- one place of the maps is set; the other descriptors refer to what they referred to
variable (hother : ∀ q, q ≠ p → s.SameFile t q)

include hother

lemma Referenced.set (hs : s.Referenced)
    (hp : 0 ≤ t.taskFdMap p → ∃ x, openGlobalFd t (t.taskFdMap p) = some x)
    (hcount : ∀ g : Fin 512, Table.count t.taskFdMap (g : Int) ≤ (t.fdTable g).refCount) :
    t.Referenced where
  mapped q hq := by
    rcases eq_or_ne q p with rfl | hne
    · exact hp hq
    · rw [(hother q hne).map] at hq
      rw [(hother q hne).openGlobalFd]
      exact hs.mapped q hq
  counted := hcount

end

/-- A place of the maps refers to another file, or to none, and the others to what they did. -/
structure Sets (s : Vfs β σ) (p : Fin 8 × Fin 256) (x : Option UInt32) (t : Vfs β σ) : Prop where
  place : t.openedWith p = x
  other : ∀ q, q ≠ p → s.SameFile t q
  referenced : t.Referenced

lemma Sets.openedWith {x : Option UInt32} (h : s.Sets p x t) :
    t.openedWith = update s.openedWith p x := by
  funext q
  rcases eq_or_ne q p with rfl | hne
  · rw [update_self, h.place]
  · rw [update_of_ne hne, (h.other q hne).openedWith]

lemma count_set_le (f : Fin 8 × Fin 256 → Int) (p : Fin 8 × Fin 256) (v c : Int) :
    Table.count (update f p v) c ≤ Table.count f c + if v = c then 1 else 0 := by
  by_cases hv : v = c
  · subst hv
    rw [if_pos rfl]
    by_cases hold : f p = v
    · rw [← hold, Function.update_eq_self]
      exact Nat.le_succ _
    · exact (Table.count_update_new hold).le
  · rw [if_neg hv, Nat.add_zero]
    by_cases hold : f p = c
    · have := Table.count_update_old hold hv
      omega
    · exact (Table.count_update_other hold hv).le

section

-- one place of the maps and one entry are set
variable {v : Int} {e : VfsFd β} (hmap : t.taskFdMap = update s.taskFdMap p v)
  (htable : t.fdTable = update s.fdTable g e)

include hmap htable

/-- The other descriptors keep their files when the entry keeps its own, or none of them refers to
it. -/
lemma SameFile.of_update (hne : q ≠ p) (hkept : s.taskFdMap q = g →
    e.used = (s.fdTable g).used ∧ e.ops = (s.fdTable g).ops ∧ e.flags = (s.fdTable g).flags) :
    s.SameFile t q := by
  have hentry : ∀ g' : Fin 512, s.taskFdMap q = g' → (t.fdTable g').used = (s.fdTable g').used ∧
      (t.fdTable g').ops = (s.fdTable g').ops ∧ (t.fdTable g').flags = (s.fdTable g').flags := by
    intro g' hg'
    rw [htable]
    rcases eq_or_ne g' g with rfl | hne'
    · rw [update_self]
      exact hkept hg'
    · rw [update_of_ne hne']
      exact ⟨rfl, rfl, rfl⟩
  exact ⟨by rw [hmap, update_of_ne hne], fun g' h => (hentry g' h).1,
    fun g' h => (hentry g' h).2.1, fun g' h => (hentry g' h).2.2⟩

lemma Referenced.counted_of_update (hs : s.Referenced) (hv : v < 0 ∨ v = g)
    (hg : Table.count (update s.taskFdMap p v) (g : Int) ≤ e.refCount) (g' : Fin 512) :
    Table.count t.taskFdMap (g' : Int) ≤ (t.fdTable g').refCount := by
  rw [hmap, htable]
  rcases eq_or_ne g' g with rfl | hne
  · rwa [update_self]
  · have hvne : v ≠ g' := by
      rcases hv with hneg | rfl
      · omega
      · exact fun h => hne (Fin.intCast_inj.1 h).symm
    have hle := count_set_le s.taskFdMap p v g'
    rw [if_neg hvne, Nat.add_zero] at hle
    rw [update_of_ne hne]
    exact hle.trans (hs.counted g')

end

section

variable (hs : s.Referenced)
include hs

lemma Referenced.addRef (hopen : openGlobalFd s (g : Int) = some (g, o)) (p : Fin 8 × Fin 256) :
    s.Sets p (some (s.fdTable g).flags) ((s.setTaskFd p g).setFd g { s.fdTable g with
      refCount := (s.fdTable g).refCount + 1 }) := by
  generalize ht : (s.setTaskFd p g).setFd g { s.fdTable g with
    refCount := (s.fdTable g).refCount + 1 } = t
  have hmap : t.taskFdMap = update s.taskFdMap p g := by rw [← ht]; rfl
  have htable : t.fdTable = update s.fdTable g { s.fdTable g with
      refCount := (s.fdTable g).refCount + 1 } := by rw [← ht]; rfl
  have hother : ∀ q, q ≠ p → s.SameFile t q := fun q hne =>
    .of_update hmap htable hne fun _ => ⟨rfl, rfl, rfl⟩
  have hp : openGlobalFd t (t.taskFdMap p) = some (g, o) := by
    obtain ⟨-, hused, hops⟩ := openGlobalFd_eq_some.1 hopen
    rw [hmap, update_self, openGlobalFd_eq_some, htable, update_self]
    exact ⟨rfl, hused, hops⟩
  have hcount : Table.count (update s.taskFdMap p g) (g : Int) ≤
      (s.fdTable g).refCount + 1 := by
    have hle := count_set_le s.taskFdMap p g g
    rw [if_pos rfl] at hle
    exact hle.trans (Nat.add_le_add_right (hs.counted g) 1)
  refine ⟨?_, hother, hs.set hother (fun _ => ⟨_, hp⟩)
    (hs.counted_of_update hmap htable (Or.inr rfl) hcount)⟩
  rw [openedWith_of_open hp, htable, update_self]

lemma Referenced.not_mapped (hfree : (s.fdTable g).used = false)
    (q : Fin 8 × Fin 256) : s.taskFdMap q ≠ g := by
  intro hq
  obtain ⟨⟨g', o⟩, hopen⟩ := hs.mapped q (by omega)
  obtain ⟨hg', hused, -⟩ := openGlobalFd_eq_some.1 hopen
  rw [hq] at hg'
  rw [← Fin.intCast_inj.1 hg', hfree] at hused
  cases hused

lemma Referenced.newFd (hfree : (s.fdTable g).used = false) (p : Fin 8 × Fin 256) (f : σ)
    (o : VfsOps β) (h : Nat) (flags : UInt32) :
    s.Sets p (some flags) ((({ s with files := f } : Vfs β σ).setFd g
      ⟨true, some o, some h, flags, 1⟩).setTaskFd p g) := by
  generalize ht : (({ s with files := f } : Vfs β σ).setFd g
    ⟨true, some o, some h, flags, 1⟩).setTaskFd p g = t
  have hmap : t.taskFdMap = update s.taskFdMap p g := by rw [← ht]; rfl
  have htable : t.fdTable = update s.fdTable g ⟨true, some o, some h, flags, 1⟩ := by
    rw [← ht]; rfl
  have hother : ∀ q, q ≠ p → s.SameFile t q := fun q hne =>
    .of_update hmap htable hne fun hq => absurd hq (hs.not_mapped hfree q)
  have hp : openGlobalFd t (t.taskFdMap p) = some (g, o) := by
    rw [hmap, update_self, openGlobalFd_eq_some, htable, update_self]
    exact ⟨rfl, rfl, rfl⟩
  have hcount : Table.count (update s.taskFdMap p g) (g : Int) ≤ 1 := by
    have hle := count_set_le s.taskFdMap p g g
    rwa [Table.count_eq_zero_iff.2 (hs.not_mapped hfree), if_pos rfl] at hle
  refine ⟨?_, hother, hs.set hother (fun _ => ⟨_, hp⟩)
    (hs.counted_of_update hmap htable (Or.inr rfl) hcount)⟩
  rw [openedWith_of_open hp, htable, update_self]

omit hs in
lemma closeBackend_fdTable (o : VfsOps β) (handle : Option Nat) :
    (s.closeBackend ops o handle).1.fdTable = s.fdTable := by
  unfold closeBackend
  split
  · rfl
  · exact (pipeCloseBackend_same _).fdTable
  · rfl

lemma Referenced.sets_none_of_update {e : VfsFd β} (hmap : t.taskFdMap = update s.taskFdMap p (-1))
    (htable : t.fdTable = update s.fdTable g e)
    (hkept : ∀ q, q ≠ p → s.taskFdMap q = g → e.used = (s.fdTable g).used ∧
      e.ops = (s.fdTable g).ops ∧ e.flags = (s.fdTable g).flags)
    (hcount : Table.count (update s.taskFdMap p (-1)) (g : Int) ≤ e.refCount) :
    s.Sets p none t := by
  have hneg : t.taskFdMap p < 0 := by
    rw [hmap, update_self]
    decide
  have hother : ∀ q, q ≠ p → s.SameFile t q := fun q hne =>
    .of_update hmap htable hne (hkept q hne)
  exact ⟨openedWith_of_neg hneg, hother, hs.set hother (fun h => absurd h (not_le.2 hneg))
    (hs.counted_of_update hmap htable (Or.inl (by decide)) hcount)⟩

/-- One descriptor less: the entry stays while others refer to it. -/
lemma Referenced.dropRef (hopen : openGlobalFd s (g : Int) = some (g, o)) (hp : s.taskFdMap p = g) :
    s.Sets p none (closeGlobalFd ops (s.setTaskFd p (-1)) g).1 := by
  have hcount : Table.count (update s.taskFdMap p (-1)) (g : Int) + 1 ≤
      (s.fdTable g).refCount := by
    rw [Table.count_update_old hp (by omega)]
    exact hs.counted g
  have hopen' : openGlobalFd (s.setTaskFd p (-1)) (g : Int) = some (g, o) := hopen
  rw [closeGlobalFd, hopen']
  dsimp only
  split_ifs with href
  · -- another descriptor refers to the entry
    generalize ht : (s.setTaskFd p (-1)).setFd g { (s.setTaskFd p (-1)).fdTable g with
      refCount := ((s.setTaskFd p (-1)).fdTable g).refCount - 1 } = t
    have hmap : t.taskFdMap = update s.taskFdMap p (-1) := by rw [← ht]; rfl
    have htable : t.fdTable = update s.fdTable g { s.fdTable g with
        refCount := (s.fdTable g).refCount - 1 } := by rw [← ht]; rfl
    exact hs.sets_none_of_update hmap htable (fun _ _ _ => ⟨rfl, rfl, rfl⟩)
      (Nat.le_sub_of_add_le hcount)
  · -- the last descriptor: nothing else refers to the entry
    have hone : (s.fdTable g).refCount ≤ 1 := not_lt.1 href
    have hnone : Table.count (update s.taskFdMap p (-1)) (g : Int) = 0 := by omega
    have hlast : ∀ q, q ≠ p → s.taskFdMap q ≠ g := by
      intro q hne
      have hq := Table.count_eq_zero_iff.1 hnone q
      rwa [update_of_ne hne] at hq
    generalize ht : ((s.setTaskFd p (-1)).closeBackend ops o
      ((s.setTaskFd p (-1)).fdTable g).backendHandle).1.setFd g VfsFd.closed = t
    have hmap : t.taskFdMap = update s.taskFdMap p (-1) := by
      rw [← ht]
      exact closeBackend_taskFdMap _ _
    have htable : t.fdTable = update s.fdTable g VfsFd.closed := by
      rw [← ht, setFd, closeBackend_fdTable]
      rfl
    exact hs.sets_none_of_update hmap htable (fun q hne hq => absurd hq (hlast q hne))
      (hnone.le.trans (Nat.zero_le _))

lemma Referenced.sets_none (hneg : s.taskFdMap p < 0) : s.Sets p none s :=
  ⟨openedWith_of_neg hneg, fun q _ => SameFile.refl s q, hs⟩

end

/-- The file of a number that a task gives as a descriptor. -/
def openedFd (s : Vfs β σ) (task : Fin 8) (fd : Int) : Option UInt32 :=
  (localFd fd).bind fun i => s.openedWith (task, i)

lemma openedFd_eq (s : Vfs β σ) (task : Fin 8) (fd : Int) :
    s.openedFd task fd = (NeuroSpark.openGlobalFd s (taskFdToGlobal s task fd)).map fun x =>
      (s.fdTable x.1).flags := by
  unfold openedFd taskFdToGlobal
  cases localFd fd with
  | none =>
    rfl
  | some i => rfl

/-- The backend would not close the file of the descriptor, which is the last one of it. -/
def CloseRefused (ops : β → VfsBackendOps σ) (s : Vfs β σ) (p : Fin 8 × Fin 256) : Prop :=
  ∃ g o e, NeuroSpark.openGlobalFd s (s.taskFdMap p) = some (g, o) ∧ (s.fdTable g).refCount ≤ 1 ∧
    (s.closeBackend ops o (s.fdTable g).backendHandle).2 = .error e

end Vfs

/-! ### The operations -/

section

variable {s : Vfs β σ} {task : Fin 8} {i : Fin 256} {flags : UInt32} {fd : Int} {src dst : Fin 8}

section

variable (hs : s.Referenced)
include hs

lemma closeTaskSlot_sets (i : Fin 256) : s.Sets (task, i) none (closeTaskSlot ops task s i) := by
  unfold closeTaskSlot
  dsimp only
  split_ifs with hpos
  · obtain ⟨⟨g, o⟩, hopen⟩ := hs.mapped _ hpos
    obtain ⟨hg, -⟩ := Vfs.openGlobalFd_eq_some.1 hopen
    rw [hg] at hopen ⊢
    exact hs.dropRef hopen hg
  · exact hs.sets_none (not_le.1 hpos)

lemma vfsClose_sets (hi : localFd fd = some i) :
    s.Sets (task, i) none (vfsClose ops s (task : Nat) fd).1 := by
  rw [vfsClose_eq_closeTaskSlot hi, currentTaskId_cast]
  exact closeTaskSlot_sets hs i

omit hs in
lemma closeBackend_setTaskFd (p : Fin 8 × Fin 256) (v : Int) (o : VfsOps β) (handle : Option Nat) :
    ((s.setTaskFd p v).closeBackend ops o handle).2 = (s.closeBackend ops o handle).2 := by
  cases handle with
  | none => rfl
  | some h =>
    cases o with
    | file b => rfl
    | pipe =>
      simp only [Vfs.closeBackend, pipeCloseBackend]
      cases hi : pipeHandle h with
      | none => rfl
      | some k =>
        rw [apply_ite Prod.snd, apply_ite Prod.snd]
        rfl

lemma vfsClose_error_iff (hi : localFd fd = some i) (hpos : 0 ≤ s.taskFdMap (task, i)) :
    (∃ e, (vfsClose ops s (task : Nat) fd).2 = .error e) ↔ s.CloseRefused ops (task, i) := by
  obtain ⟨⟨g, o⟩, hopen⟩ := hs.mapped _ hpos
  have hopen' : openGlobalFd (s.setTaskFd (task, i) (-1)) (s.taskFdMap (task, i)) =
      some (g, o) := hopen
  unfold vfsClose Vfs.CloseRefused
  rw [currentTaskId_cast, hi]
  dsimp only
  rw [if_neg (not_lt.2 hpos), closeGlobalFd, hopen', hopen]
  dsimp only
  rw [closeBackend_setTaskFd]
  split_ifs with href
  · constructor
    · rintro ⟨e, he⟩
      cases he
    · rintro ⟨g', o', e, heq, hle, -⟩
      cases heq
      exact absurd href (not_lt.2 hle)
  · constructor
    · rintro ⟨e, he⟩
      exact ⟨g, o, e, rfl, not_lt.1 href, he⟩
    · rintro ⟨g', o', e, heq, -, he⟩
      cases heq
      exact ⟨e, he⟩

lemma vfsOpen_sets {path : CString} {fd : Nat}
    (hok : (vfsOpen ops s (task : Nat) path flags).2 = .ok fd) :
    ∃ i : Fin 256, localFd (fd : Int) = some i ∧ s.openedWith (task, i) = none ∧
      s.Sets (task, i) (some flags) (vfsOpen ops s (task : Nat) path flags).1 := by
  unfold vfsOpen at hok ⊢
  rw [currentTaskId_cast] at hok ⊢
  dsimp only at hok ⊢
  split at hok
  · cases hok
  rename_i hpath
  rw [if_neg hpath]
  split at hok
  · cases hok
  split at hok
  · cases hok
  split at hok
  · rename_i g i hg hi
    cases hok
    refine ⟨i, ?_, Vfs.openedWith_of_neg (allocTaskFd_neg (s := { s with files := _ }) hi), ?_⟩
    · exact dif_pos ⟨Int.natCast_nonneg _, by omega⟩
    · exact hs.newFd (allocGlobalFd_unused (s := { s with files := _ }) hg) _ _ _ _ _
  · cases hok

omit hs in
lemma vfsOpen_sameMaps {path : CString} {e : VfsError}
    (he : (vfsOpen ops s (task : Nat) path flags).2 = .error e) :
    s.SameMaps (vfsOpen ops s (task : Nat) path flags).1 := by
  unfold vfsOpen at he ⊢
  dsimp only at he ⊢
  split
  · exact Vfs.SameMaps.of_eq rfl rfl
  rename_i hpath
  rw [if_neg hpath] at he
  split
  · exact Vfs.SameMaps.of_eq rfl rfl
  rename_i b relPath hmount
  rw [hmount] at he
  dsimp only at he
  split
  · exact Vfs.SameMaps.of_eq rfl rfl
  rename_i h hopened
  rw [hopened] at he
  split
  · rename_i g i hg hi
    rw [hg, hi] at he
    cases he
  · exact Vfs.SameMaps.of_eq rfl rfl

lemma vfsDup_sets (hfd : s.openedFd task fd = some flags) (hi : allocTaskFd s task = some i) :
    s.Sets (task, i) (some flags) (vfsDup s (task : Nat) fd).1 := by
  rw [Vfs.openedFd_eq, Option.map_eq_some_iff] at hfd
  obtain ⟨⟨g, o⟩, hopen, rfl⟩ := hfd
  obtain ⟨hg, hused, hops⟩ := Vfs.openGlobalFd_eq_some.1 hopen
  unfold vfsDup
  rw [currentTaskId_cast]
  dsimp only
  rw [hopen]
  rw [hi]
  exact hs.addRef (Vfs.openGlobalFd_eq_some.2 ⟨rfl, hused, hops⟩) _

omit hs in
lemma vfsDup_eq_self (hno : s.openedFd task fd = none ∨ allocTaskFd s task = none) :
    (vfsDup s (task : Nat) fd).1 = s := by
  rw [Vfs.openedFd_eq, Option.map_eq_none_iff] at hno
  unfold vfsDup
  rw [currentTaskId_cast]
  dsimp only
  rcases hno with hfd | hi
  · rw [hfd]
  · rw [hi]
    split <;> rfl

omit hs in
lemma localFd_eq_some (h : localFd fd = some i) : fd = (i : Nat) := by
  unfold localFd at h
  split_ifs at h with hrange
  obtain rfl := Option.some.inj h
  exact (Int.toNat_of_nonneg hrange.1).symm

lemma vfsDup2_sets {fd newfd : Int} (hfd : s.openedFd task fd = some flags)
    (hi : localFd newfd = some i) (hne : fd ≠ newfd) :
    s.Sets (task, i) (some flags) (vfsDup2 ops s (task : Nat) fd newfd).1 := by
  obtain ⟨j, hj, -⟩ := Option.bind_eq_some_iff.1 hfd
  have hji : (task, j) ≠ (task, i) := by
    intro heq
    obtain ⟨-, rfl⟩ := Prod.mk.inj heq
    exact hne ((localFd_eq_some hj).trans (localFd_eq_some hi).symm)
  rw [Vfs.openedFd_eq, Option.map_eq_some_iff] at hfd
  obtain ⟨⟨g, o⟩, hopen, rfl⟩ := hfd
  have hmap : s.taskFdMap (task, j) = g := by
    have hg := (Vfs.openGlobalFd_eq_some.1 hopen).1
    rwa [taskFdToGlobal, hj] at hg
  unfold vfsDup2
  rw [currentTaskId_cast]
  dsimp only
  rw [hopen]
  rw [hi]
  dsimp only
  rw [if_neg hne]
  -- the file at the new number is closed first, and the source of the copy is not touched
  have hclosed : s.Sets (task, i) none (if 0 ≤ s.taskFdMap (task, i) then
      (vfsClose ops s (task : Nat) newfd).1 else s) := by
    split_ifs with hpos
    · exact vfsClose_sets hs hi
    · exact hs.sets_none (not_le.1 hpos)
  generalize (if 0 ≤ s.taskFdMap (task, i) then (vfsClose ops s (task : Nat) newfd).1 else s) = t
    at hclosed ⊢
  have hsource := hclosed.other (task, j) hji
  have hopen' : openGlobalFd t (g : Int) = some (g, o) := by
    obtain ⟨-, hused, hops⟩ := Vfs.openGlobalFd_eq_some.1 hopen
    rw [Vfs.openGlobalFd_eq_some, hsource.used g hmap, hsource.ops g hmap]
    exact ⟨rfl, hused, hops⟩
  rw [← hsource.flags g hmap]
  have hadded := hclosed.referenced.addRef hopen' (task, i)
  refine ⟨hadded.place, fun q hq => ?_, hadded.referenced⟩
  exact (hclosed.other q hq).trans (hadded.other q hq)

omit hs in
lemma vfsDup2_eq_self {fd newfd : Int}
    (hno : s.openedFd task fd = none ∨ localFd newfd = none ∨ fd = newfd) :
    (vfsDup2 ops s (task : Nat) fd newfd).1 = s := by
  rw [Vfs.openedFd_eq, Option.map_eq_none_iff] at hno
  unfold vfsDup2
  rw [currentTaskId_cast]
  dsimp only
  rcases hno with hfd | hi | rfl
  · rw [hfd]
  · rw [hi]
    split <;> rfl
  · split
    · rfl
    · split
      · rfl
      · rw [if_pos rfl]

omit hs in
lemma vfsPipe_sameMaps : s.SameMaps (vfsPipe s (task : Nat)).1 := by
  have hsame : ∀ {t : Vfs β σ}, s.SameTables t → s.SameMaps t := fun h =>
    Vfs.SameMaps.of_eq h.fdTable h.taskFdMap
  unfold vfsPipe
  dsimp only
  split
  · exact hsame ⟨rfl, rfl, rfl⟩
  rename_i s₁ pipeIdx h₁
  have hsame₁ := (vfsPipeAllocSlot_spec h₁).1
  split
  · split
    · exact hsame ⟨hsame₁.fdTable, hsame₁.taskFdMap, hsame₁.files⟩
    · rename_i s₂ w h₂
      have hsame₂ := (hsame₁.trans (vfsPipeHandleAlloc_spec h₂).1).trans (pipeCloseBackend_same w)
      exact hsame ⟨hsame₂.fdTable, hsame₂.taskFdMap, hsame₂.files⟩
  · rename_i s₂ r h₂
    have hsame₂ := hsame₁.trans (vfsPipeHandleAlloc_spec h₂).1
    split
    · have hsame₃ := hsame₂.trans (pipeCloseBackend_same r)
      exact hsame ⟨hsame₃.fdTable, hsame₃.taskFdMap, hsame₃.files⟩
    · rename_i s₃ w h₃
      have hsame₃ := hsame₂.trans (vfsPipeHandleAlloc_spec h₃).1
      obtain ⟨hfd, -, hmap, -⟩ :=
        vfsPipeDescriptors_spec (s := s₃) (currentTaskId (task : Nat)) r w
      rw [hsame₃.fdTable] at hfd
      rw [hsame₃.taskFdMap] at hmap
      exact ⟨hfd, hmap⟩

/-! ### Cloning -/

omit hs in
lemma foldl_sets {f : Vfs β σ → Fin 256 → Vfs β σ}
    {x : Option UInt32 → Option UInt32 → Option UInt32} (hne : src ≠ dst)
    (hstep : ∀ (t : Vfs β σ) i, t.Referenced →
      t.Sets (dst, i) (x (t.openedWith (src, i)) (t.openedWith (dst, i))) (f t i))
    {slots : List (Fin 256)} (hnodup : slots.Nodup) (hs : s.Referenced) :
    (slots.foldl f s).Referenced ∧ ∀ q, (slots.foldl f s).openedWith q =
      if q.1 = dst ∧ q.2 ∈ slots then x (s.openedWith (src, q.2)) (s.openedWith q)
      else s.openedWith q := by
  induction slots generalizing s with
  | nil => exact ⟨hs, fun q => by simp⟩
  | cons a slots ih =>
    obtain ⟨ha, hrest⟩ := List.nodup_cons.1 hnodup
    have hset := hstep s a hs
    obtain ⟨href, hopened⟩ := ih hrest hset.referenced
    refine ⟨href, fun q => ?_⟩
    have hsrc : (f s a).openedWith (src, q.2) = s.openedWith (src, q.2) := by
      rw [hset.openedWith, update_of_ne fun h => hne (Prod.mk.inj h).1]
    rw [List.foldl_cons, hopened, hsrc, hset.openedWith]
    rcases eq_or_ne q (dst, a) with rfl | hq
    · rw [if_neg fun h => ha h.2, update_self,
        if_pos ⟨rfl, List.mem_cons_self ..⟩]
    · have hmem : q.1 = dst ∧ q.2 ∈ a :: slots ↔ q.1 = dst ∧ q.2 ∈ slots := by
        refine and_congr_right fun hdst => ?_
        rw [List.mem_cons]
        exact or_iff_right fun h => hq (Prod.ext hdst h)
      simp only [update_of_ne hq, hmem]

lemma Vfs.Referenced.clear (p : Fin 8 × Fin 256) : s.Sets p none (s.setTaskFd p (-1)) := by
  have hle := Vfs.count_set_le s.taskFdMap p (-1) ((0 : Fin 512) : Int)
  -- the entries stay as they are
  exact hs.sets_none_of_update rfl (Function.update_eq_self (0 : Fin 512) s.fdTable).symm
    (fun _ _ _ => ⟨rfl, rfl, rfl⟩) (hle.trans (hs.counted 0))

lemma cloneTaskSlot_sets (i : Fin 256) :
    s.Sets (dst, i) ((s.openedWith (src, i)).or (s.openedWith (dst, i)))
      (cloneTaskSlot src dst s i) := by
  have hrefl : s.openedWith (src, i) = none →
      s.Sets (dst, i) ((s.openedWith (src, i)).or (s.openedWith (dst, i))) s := fun hnone =>
    ⟨by rw [hnone, Option.none_or], fun q _ => Vfs.SameFile.refl s q, hs⟩
  unfold cloneTaskSlot
  dsimp only
  split_ifs with hrange hused
  · obtain ⟨⟨g, o⟩, hopen⟩ := hs.mapped _ hrange.1
    obtain ⟨hg, hu, hops⟩ := Vfs.openGlobalFd_eq_some.1 hopen
    rw [Vfs.openedWith_of_open hopen, Option.some_or]
    have hvalue : (s.taskFdMap (src, i)).toNat = g := by omega
    have hindex : (⟨(s.taskFdMap (src, i)).toNat, by omega⟩ : Fin 512) = g := Fin.ext hvalue
    rw [hindex, hvalue]
    exact hs.addRef (Vfs.openGlobalFd_eq_some.2 ⟨rfl, hu, hops⟩) (dst, i)
  · refine hrefl ?_
    rw [Vfs.openedWith, openGlobalFd, dif_pos hrange]
    rw [if_neg hused]
    rfl
  · refine hrefl ?_
    rw [Vfs.openedWith, openGlobalFd, dif_neg hrange]
    rfl

lemma vfsCloneTaskFds_openedWith (hne : src ≠ dst) :
    (vfsCloneTaskFds s (src : Nat) (dst : Nat)).1.Referenced ∧
      ∀ q, (vfsCloneTaskFds s (src : Nat) (dst : Nat)).1.openedWith q =
        if q.1 = dst then s.openedWith (src, q.2) else s.openedWith q := by
  simp only [vfsCloneTaskFds, taskIndex_cast]
  have hnodup := List.nodup_finRange 256
  have hall : ∀ i : Fin 256, i ∈ List.finRange 256 := List.mem_finRange
  obtain ⟨href, hcleared⟩ := foldl_sets (s := s) (f := fun s i => s.setTaskFd (dst, i) (-1))
    (x := fun _ _ => none) hne (fun t i ht => ht.clear (dst, i)) hnodup hs
  obtain ⟨href', hcloned⟩ := foldl_sets (f := cloneTaskSlot src dst) (x := Option.or) hne
    (fun t i ht => cloneTaskSlot_sets ht i) hnodup href
  refine ⟨href', fun q => ?_⟩
  rw [hcloned]
  by_cases hq : q.1 = dst
  · rw [if_pos ⟨hq, hall q.2⟩, if_pos hq, hcleared q, if_pos ⟨hq, hall q.2⟩, Option.or_none,
      hcleared, if_neg fun h => hne h.1]
  · rw [if_neg fun h => hq h.1, if_neg hq, hcleared, if_neg fun h => hq h.1]

end

end

end NeuroSpark
