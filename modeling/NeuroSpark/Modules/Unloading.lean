import Mathlib.Algebra.BigOperators.Group.Finset.Piecewise
import Mathlib.Algebra.Order.BigOperators.Group.Finset
import Mathlib.Tactic.Ring
import NeuroSpark.Lib.RefCount
import NeuroSpark.Modules.FailedLoads

/-!
# Unloading modules

A module counts the references of tasks and of the kernel, and the modules in use that depend on it.
When the last reference to a module is dropped it is unloaded, and the modules that it depended on
are counted down; but it is still in the table then, so that a dependency whose count comes to 0 has
a dependent and is kept for good. Runs in which this never happens leave nothing behind.
-/

namespace NeuroSpark.Modules

open Function (update update_self update_of_ne)
open Logged

/-- The references of tasks and of the kernel. -/
def NsLoadedObject.directRefs (m : NsLoadedObject) : Int := (∑ t, m.taskRefs t) + m.kernelRefs

namespace ModuleLoader

/-- The modules in use that depend on one. -/
def dependents (s : ModuleLoader) (m : Fin 12) : Finset (Fin 12) :=
  Finset.univ.filter fun n => (s.modules n).used = true ∧ m ∈ (s.modules n).deps

/-- The counts are right, but for what is owed to some modules. -/
structure Counted (owed : Fin 12 → Int) (s : ModuleLoader) : Prop where
  counts : ∀ m, (s.modules m).used = true →
    (s.modules m).refCount = (s.modules m).directRefs + (s.dependents m).card + owed m
  refs : ∀ m, (s.modules m).used = true →
    (∀ t, 0 ≤ (s.modules m).taskRefs t) ∧ 0 ≤ (s.modules m).kernelRefs
  nodup : ∀ n, (s.modules n).used = true → (s.modules n).deps.Nodup
  deps : ∀ n, (s.modules n).used = true → ∀ d ∈ (s.modules n).deps, (s.modules d).used = true
  waiting : ∀ i p, s.pendingRelocs i = some p → (s.modules p.targetSlot).used = true

/-- Every module in use has been counted. -/
def Held (s : ModuleLoader) : Prop := ∀ m, (s.modules m).used = true → 0 < (s.modules m).refCount

end ModuleLoader

/-- No symbol is bound and no relocation queued before one is refused. -/
def ModuleImage.BindsNothingAfter (image : ModuleImage) (s : ModuleLoader) :
    Except Nat (Nat × SectionTable) → Prop
  | .error _ => True
  | .ok l => RefusedFirst (image.fates s l.2)

instance (image : ModuleImage) (s : ModuleLoader) : ∀ l, Decidable (image.BindsNothingAfter s l)
  | .error _ => inferInstanceAs (Decidable True)
  | .ok l => inferInstanceAs (Decidable (RefusedFirst (image.fates s l.2)))

/-- A load that fails leaves no counts and no relocations behind. -/
def FailsCleanly (pool : ModulePool) (path : CString) (kind : NsModuleKind) (file : ModuleFile)
    (s : ModuleLoader) : Prop :=
  (loadNewModule pool path kind file s).result.isOk = true ∨
    file.image.BindsNothingAfter s (layout pool file.image s.poolCursor)

instance (pool : ModulePool) (path : CString) (kind : NsModuleKind) (file : ModuleFile)
    (s : ModuleLoader) : Decidable (FailsCleanly pool path kind file s) :=
  inferInstanceAs (Decidable (_ = true ∨ _))

/-- The module of which a call drops a reference. -/
def ModuleLoader.dropped (s : ModuleLoader) : ModuleOp → Option (Fin 12)
  | .dlclose task handle =>
    (taskSlot task).bind fun t => (s.findModuleSlotByHandle handle).filter fun slot =>
      (s.modules slot).kind = .library ∧ 0 < (s.modules slot).taskRefs t
  | .rmmod text =>
    if text = [] then none
    else (s.rmmodSlot text).filter fun slot =>
      (s.modules slot).kind = .kernel ∧ 0 < (s.modules slot).kernelRefs
  | _ => none

/-- When a call loads a module, then cleanly. -/
def LoadsCleanly (pool : ModulePool) (s : ModuleLoader) : ModuleOp → Prop
  | .dlopen task path file =>
    ∀ t ∈ taskSlot task, FailsCleanly pool path .library file (s.clearDlerrorForTask t)
  | .insmod path file _ => FailsCleanly pool path .kernel file s
  | _ => True

instance (pool : ModulePool) (s : ModuleLoader) : ∀ op, Decidable (LoadsCleanly pool s op)
  | .dlopen task path file => inferInstanceAs (Decidable (∀ t ∈ taskSlot task,
      FailsCleanly pool path .library file (s.clearDlerrorForTask t)))
  | .dlclose _ _ => inferInstanceAs (Decidable True)
  | .dlsym _ _ => inferInstanceAs (Decidable True)
  | .insmod path file _ => inferInstanceAs (Decidable (FailsCleanly pool path .kernel file s))
  | .rmmod _ => inferInstanceAs (Decidable True)
  | .switch _ => inferInstanceAs (Decidable True)

/-- No failed load leaves counts behind, and no module is unloaded that is the only one to hold
another. -/
def Tidy (pool : ModulePool) (s : ModuleLoader) (op : ModuleOp) : Prop :=
  LoadsCleanly pool s op ∧ ∀ slot ∈ s.dropped op, (s.modules slot).refCount = 1 →
    ∀ d ∈ (s.modules slot).deps, 2 ≤ (s.modules d).refCount

instance (pool : ModulePool) (s : ModuleLoader) (op : ModuleOp) : Decidable (Tidy pool s op) :=
  inferInstanceAs (Decidable (_ ∧ _))

/-- A module in use depends on another. -/
def ModuleLoader.DependsOn (s : ModuleLoader) (m d : Fin 12) : Prop :=
  (s.modules m).used = true ∧ d ∈ (s.modules m).deps

/-- A module in use that tasks or the kernel refer to, or that is kept by one that is kept. -/
def ModuleLoader.Kept (s : ModuleLoader) : Fin 12 → Prop :=
  RefCount.Kept (fun m => (s.modules m).used = true) (fun m => 0 < (s.modules m).directRefs)
    s.DependsOn

/-- After a call that drops the last reference to a module on which none depends, it is not in use,
and what is in use is kept and has been counted. -/
def UnloadsClosure (pool : ModulePool) (s : ModuleLoader) (op : ModuleOp) : Prop :=
  ∀ slot ∈ s.dropped op, (s.modules slot).directRefs = 1 → ¬ s.moduleHasDependents slot →
    RefCount.Acyclic s.DependsOn →
    ((moduleStep pool s op).1.modules slot).used = false ∧
    (∀ m, ((moduleStep pool s op).1.modules m).used = true → (moduleStep pool s op).1.Kept m) ∧
    (moduleStep pool s op).1.Held

section

variable {pool : ModulePool} {slot : Fin 12} {image : ModuleImage} {s s' : ModuleLoader}
  {owed owed' : Fin 12 → Int}

open ModuleLoader

/-! ### Changes that are counted -/

lemma NsLoadedObject.directRefs_nonneg {m : NsLoadedObject} (htasks : ∀ t, 0 ≤ m.taskRefs t)
    (hkernel : 0 ≤ m.kernelRefs) : 0 ≤ m.directRefs :=
  add_nonneg (Finset.sum_nonneg fun t _ => htasks t) hkernel

lemma ModuleLoader.dependents_congr
    (h : ∀ n, (s'.modules n).used = (s.modules n).used ∧ (s'.modules n).deps = (s.modules n).deps)
    (m : Fin 12) : s'.dependents m = s.dependents m := by
  unfold dependents
  simp only [fun n => (h n).1, fun n => (h n).2]

lemma ModuleLoader.mem_dependents {m n : Fin 12} :
    n ∈ s.dependents m ↔ (s.modules n).used = true ∧ m ∈ (s.modules n).deps := by
  simp [dependents]

/-- The same modules are in use, with the same references, dependencies and counts. -/
def ModuleLoader.SameCounts (s s' : ModuleLoader) : Prop :=
  ∀ n, (s'.modules n).used = (s.modules n).used ∧ ((s.modules n).used = true →
    (s'.modules n).refCount = (s.modules n).refCount ∧
    (s'.modules n).deps = (s.modules n).deps ∧
    (s'.modules n).taskRefs = (s.modules n).taskRefs ∧
    (s'.modules n).kernelRefs = (s.modules n).kernelRefs)

lemma ModuleLoader.sameCounts_of_modules (h : s'.modules = s.modules) : s.SameCounts s' :=
  fun n => by rw [h]; exact ⟨rfl, fun _ => ⟨rfl, rfl, rfl, rfl⟩⟩

lemma ModuleLoader.SameCounts.dependents (h : s.SameCounts s') (m : Fin 12) :
    s'.dependents m = s.dependents m := by
  ext n
  rw [mem_dependents, mem_dependents, (h n).1]
  exact and_congr_right fun hn => by rw [((h n).2 hn).2.1]

lemma ModuleLoader.SameCounts.held (h : s.SameCounts s') (hheld : s.Held) : s'.Held := by
  intro m hm
  rw [(h m).1] at hm
  rw [((h m).2 hm).1]
  exact hheld m hm

lemma ModuleLoader.Counted.congr (h : s.Counted owed) (hsame : s.SameCounts s')
    (hpending : ∀ i p, s'.pendingRelocs i = some p →
      s.pendingRelocs i = some p ∨ (s.modules p.targetSlot).used = true) :
    s'.Counted owed := by
  refine ⟨fun m hm => ?_, fun m hm => ?_, fun n hn => ?_, fun n hn d hd => ?_, fun i p hp => ?_⟩
  · rw [(hsame m).1] at hm
    obtain ⟨hcount, -, htasks, hkernel⟩ := (hsame m).2 hm
    rw [hsame.dependents, hcount, h.counts m hm]
    unfold NsLoadedObject.directRefs
    rw [htasks, hkernel]
  · rw [(hsame m).1] at hm
    obtain ⟨-, -, htasks, hkernel⟩ := (hsame m).2 hm
    rw [htasks, hkernel]
    exact h.refs m hm
  · rw [(hsame n).1] at hn
    rw [((hsame n).2 hn).2.1]
    exact h.nodup n hn
  · rw [(hsame n).1] at hn
    rw [((hsame n).2 hn).2.1] at hd
    rw [(hsame d).1]
    exact h.deps n hn d hd
  · rw [(hsame _).1]
    rcases hpending i p hp with hold | hused
    · exact h.waiting i p hold
    · exact hused

/-- A module keeps its dependencies, and its references and its count change by as much, or the
difference is owed. -/
lemma ModuleLoader.Counted.modify (h : s.Counted owed) {f : NsLoadedObject → NsLoadedObject}
    (hused : (f (s.modules slot)).used = (s.modules slot).used)
    (hdeps : (f (s.modules slot)).deps = (s.modules slot).deps)
    (hrefs : (s.modules slot).used = true →
      (∀ t, 0 ≤ (f (s.modules slot)).taskRefs t) ∧ 0 ≤ (f (s.modules slot)).kernelRefs)
    (hcount : (s.modules slot).used = true →
      (f (s.modules slot)).refCount - (f (s.modules slot)).directRefs - owed' slot =
        (s.modules slot).refCount - (s.modules slot).directRefs - owed slot)
    (howed : ∀ m ≠ slot, owed' m = owed m) : (s.modify slot f).Counted owed' := by
  have hsame : ∀ n, ((s.modify slot f).modules n).used = (s.modules n).used ∧
      ((s.modify slot f).modules n).deps = (s.modules n).deps := by
    intro n
    by_cases hn : n = slot
    · subst hn
      rw [modify_self]
      exact ⟨hused, hdeps⟩
    · rw [modify_of_ne _ hn]
      exact ⟨rfl, rfl⟩
  have hdependents := dependents_congr hsame
  refine ⟨fun m hm => ?_, fun m hm => ?_, fun n hn => ?_, fun n hn d hd => ?_, fun i p hp => ?_⟩
  · rw [(hsame m).1] at hm
    have hcounts := h.counts m hm
    rw [hdependents]
    by_cases hms : m = slot
    · subst hms
      have hdiff := hcount hm
      rw [modify_self]
      omega
    · rw [modify_of_ne _ hms, howed m hms]
      exact hcounts
  · rw [(hsame m).1] at hm
    by_cases hms : m = slot
    · subst hms
      rw [modify_self]
      exact hrefs hm
    · rw [modify_of_ne _ hms]
      exact h.refs m hm
  · rw [(hsame n).1] at hn
    rw [(hsame n).2]
    exact h.nodup n hn
  · rw [(hsame n).1] at hn
    rw [(hsame n).2] at hd
    rw [(hsame d).1]
    exact h.deps n hn d hd
  · rw [(hsame _).1]
    exact h.waiting i p hp

/-- A dependency is counted where it is on. -/
lemma ModuleLoader.Counted.addDependency (h : s.Counted owed) {owner : Fin 12}
    (hslot : (s.modules slot).used = true) (howner : (s.modules owner).used = true)
    (hdep : s.addDependency slot (some owner) = some s') : s'.Counted owed := by
  rcases addDependency_cases hdep with ⟨-, rfl⟩ | ⟨hnew, -, hs'⟩
  · exact h
  -- what is the same, and what is not, of each module
  have hfield : ∀ n, (s'.modules n).used = (s.modules n).used ∧
      (s'.modules n).directRefs = (s.modules n).directRefs ∧
      (s'.modules n).taskRefs = (s.modules n).taskRefs ∧
      (s'.modules n).kernelRefs = (s.modules n).kernelRefs ∧
      (s'.modules n).deps = (s.modules n).deps ++ (if n = slot then [owner] else []) ∧
      (s'.modules n).refCount = (s.modules n).refCount + (if n = owner then 1 else 0) := by
    intro n
    subst hs'
    by_cases hno : n = owner
    · subst hno
      rw [modify_self]
      by_cases hns : n = slot
      · subst hns
        simp [NsLoadedObject.directRefs]
      · rw [modify_of_ne _ hns]
        simp [NsLoadedObject.directRefs, hns]
    · rw [modify_of_ne _ hno]
      by_cases hns : n = slot
      · subst hns
        simp [NsLoadedObject.directRefs, hno]
      · rw [modify_of_ne _ hns]
        simp [hns, hno]
  have hdependents : ∀ m, ((s'.dependents m).card : Int) =
      (s.dependents m).card + (if m = owner then 1 else 0) := by
    intro m
    by_cases hmo : m = owner
    · subst hmo
      have hset : s'.dependents m = insert slot (s.dependents m) := by
        ext n
        rw [Finset.mem_insert, mem_dependents, mem_dependents, (hfield n).1, (hfield n).2.2.2.2.1]
        by_cases hns : n = slot
        · simp [hns, hslot]
        · simp [hns]
      rw [hset, Finset.card_insert_of_notMem fun hmem => hnew (mem_dependents.1 hmem).2, if_pos rfl]
      rfl
    · have hset : s'.dependents m = s.dependents m := by
        ext n
        rw [mem_dependents, mem_dependents, (hfield n).1, (hfield n).2.2.2.2.1]
        by_cases hns : n = slot
        · simp [hns, hmo]
        · simp [hns]
      rw [hset, if_neg hmo, add_zero]
  have hpending : s'.pendingRelocs = s.pendingRelocs := by rw [hs']; rfl
  refine ⟨fun m hm => ?_, fun m hm => ?_, fun n hn => ?_, fun n hn d hd => ?_, fun i p hp => ?_⟩
  · rw [(hfield m).1] at hm
    rw [(hfield m).2.2.2.2.2, (hfield m).2.1, hdependents, h.counts m hm]
    ring
  · rw [(hfield m).1] at hm
    rw [(hfield m).2.2.1, (hfield m).2.2.2.1]
    exact h.refs m hm
  · rw [(hfield n).1] at hn
    rw [(hfield n).2.2.2.2.1]
    by_cases hns : n = slot
    · rw [if_pos hns]
      refine List.nodup_append.2 ⟨h.nodup n hn, List.nodup_singleton _, ?_⟩
      intro a ha b hb hab
      rw [List.mem_singleton.1 hb] at hab
      exact hnew (hns ▸ hab ▸ ha)
    · rw [if_neg hns, List.append_nil]
      exact h.nodup n hn
  · rw [(hfield n).1] at hn
    rw [(hfield d).1]
    rw [(hfield n).2.2.2.2.1, List.mem_append] at hd
    rcases hd with hd | hd
    · exact h.deps n hn d hd
    · split_ifs at hd
      · rw [List.mem_singleton.1 hd]
        exact howner
      · cases hd
  · rw [(hfield _).1]
    rw [hpending] at hp
    exact h.waiting i p hp

lemma ModuleLoader.refCount_addDependency {owner : Fin 12}
    (hdep : s.addDependency slot (some owner) = some s') {m : Fin 12} (hm : m ≠ slot) :
    (s'.modules m).used = (s.modules m).used ∧
      (s.modules m).refCount + (if m ∈ (s'.modules slot).deps then 1 else 0) =
        (s'.modules m).refCount + (if m ∈ (s.modules slot).deps then 1 else 0) := by
  rcases addDependency_cases hdep with ⟨-, rfl⟩ | ⟨hnew, -, rfl⟩
  · exact ⟨rfl, rfl⟩
  have hdeps : (((s.modify slot fun m => { m with deps := m.deps ++ [owner] }).modify owner
      fun m => { m with refCount := m.refCount + 1 }).modules slot).deps =
        (s.modules slot).deps ++ [owner] := by
    by_cases hso : slot = owner
    · subst hso
      rw [modify_self, modify_self]
    · rw [modify_of_ne _ hso, modify_self]
  simp only [hdeps, List.mem_append, List.mem_singleton]
  by_cases hmo : m = owner
  · subst hmo
    rw [modify_self, modify_of_ne _ hm, if_pos (Or.inr rfl), if_neg hnew]
    exact ⟨rfl, (add_zero _).symm⟩
  · rw [modify_of_ne _ hmo, modify_of_ne _ hm]
    simp [hmo]

/-! ### Loading -/

/-- What is owed to a module whose new reference is not entered yet. -/
def owedTo (slot : Fin 12) : Fin 12 → Int := fun m => if m = slot then 1 else 0

/-- While a module is loaded the counts are right, for the reference that will be entered, and the
modules that it depends on are counted once more than in `s₀`. -/
structure ModuleLoader.Loading (s₀ : ModuleLoader) (slot : Fin 12) (s : ModuleLoader) : Prop where
  used : (s.modules slot).used = true
  counted : s.Counted (owedTo slot)
  own : 0 < (s.modules slot).refCount
  others : ∀ m ≠ slot, (s.modules m).used = true →
    (s₀.modules m).used = true ∧
      (s₀.modules m).refCount + (if m ∈ (s.modules slot).deps then 1 else 0) =
        (s.modules m).refCount

lemma ModuleLoader.Counted.starting (h : s.Counted 0) (hfree : (s.modules slot).used = false)
    (kind : NsModuleKind) (path : CString) : s.Loading slot (s.starting slot kind path) := by
  have hown : (s.starting slot kind path).modules slot = .fresh kind path := s.modify_self _ _
  have hothers : ∀ n ≠ slot, (s.starting slot kind path).modules n = s.modules n := fun n hn =>
    s.modify_of_ne hn _
  have hused : ∀ n, (s.modules n).used = true →
      (s.starting slot kind path).modules n = s.modules n := fun n hn =>
    hothers n fun hns => by simp [hns, hfree] at hn
  have hdependents : ∀ m, (s.starting slot kind path).dependents m = s.dependents m := by
    intro m
    ext n
    rw [mem_dependents, mem_dependents]
    by_cases hns : n = slot
    · subst hns
      rw [hown, hfree]
      simp [NsLoadedObject.fresh, NsLoadedObject.zero]
    · rw [hothers n hns]
  have hnone : s.dependents slot = ∅ := by
    refine Finset.eq_empty_iff_forall_notMem.2 fun n hn => ?_
    obtain ⟨hn, hmem⟩ := mem_dependents.1 hn
    have := h.deps n hn slot hmem
    simp [hfree] at this
  refine ⟨by rw [hown]; rfl, ⟨fun m hm => ?_, fun m hm => ?_, fun n hn => ?_, fun n hn d hd => ?_,
    fun i p hp => ?_⟩, by rw [hown]; exact Int.one_pos, fun m hm hused => ?_⟩
  · rw [hdependents]
    by_cases hms : m = slot
    · subst hms
      rw [hown, hnone]
      simp [NsLoadedObject.fresh, NsLoadedObject.zero, NsLoadedObject.directRefs, owedTo]
    · rw [hothers m hms] at hm ⊢
      simpa [owedTo, hms] using h.counts m hm
  · by_cases hms : m = slot
    · rw [hms, hown]
      exact ⟨fun t => le_rfl, le_rfl⟩
    · rw [hothers m hms] at hm ⊢
      exact h.refs m hm
  · by_cases hns : n = slot
    · rw [hns, hown]
      exact List.nodup_nil
    · rw [hothers n hns] at hn ⊢
      exact h.nodup n hn
  · by_cases hns : n = slot
    · rw [hns, hown] at hd
      cases hd
    · rw [hothers n hns] at hn hd
      have hdused := h.deps n hn d hd
      rw [hused d hdused]
      exact hdused
  · have hp' := h.waiting i p hp
    rw [hused _ hp']
    exact hp'
  · rw [hothers m hm] at hused
    rw [hothers m hm, hown]
    exact ⟨hused, by simp [NsLoadedObject.fresh, NsLoadedObject.zero]⟩

variable {s₀ : ModuleLoader}

lemma ModuleLoader.Loading.congr (h : s₀.Loading slot s) (hsame : s.SameCounts s')
    (hpending : ∀ i p, s'.pendingRelocs i = some p →
      s.pendingRelocs i = some p ∨ (s.modules p.targetSlot).used = true) :
    s₀.Loading slot s' := by
  obtain ⟨hcount, hdeps, -⟩ := (hsame slot).2 h.used
  refine ⟨(hsame slot).1.trans h.used, h.counted.congr hsame hpending, by rw [hcount]; exact h.own,
    fun m hm hused => ?_⟩
  rw [(hsame m).1] at hused
  rw [hdeps, ((hsame m).2 hused).1]
  exact h.others m hm hused

lemma ModuleLoader.Loading.addDependency (h : s₀.Loading slot s) {owner : Fin 12}
    (howner : (s.modules owner).used = true)
    (hdep : s.addDependency slot (some owner) = some s') : s₀.Loading slot s' := by
  have hown := (relocated_addDependency hdep).own
  refine ⟨?_, h.counted.addDependency h.used howner hdep, ?_, fun m hm hused => ?_⟩
  · obtain ⟨refCount, deps, hown⟩ := hown
    rw [hown]
    exact h.used
  · rcases addDependency_cases hdep with ⟨-, rfl⟩ | ⟨-, -, rfl⟩
    · exact h.own
    · have hpos := h.own
      by_cases hso : slot = owner
      · subst hso
        rw [modify_self, modify_self]
        simp only
        omega
      · rw [modify_of_ne _ hso, modify_self]
        exact hpos
  · obtain ⟨hsame, hcount⟩ := refCount_addDependency hdep hm
    rw [hsame] at hused
    obtain ⟨hused₀, hcount₀⟩ := h.others m hm hused
    exact ⟨hused₀, by omega⟩

lemma RelocStep.loading {fate : RelocFate} {res : Except ModuleLoader ModuleLoader}
    (hstep : RelocStep slot s fate res) (h : s₀.Loading slot s) :
    s₀.Loading slot (ends res) := by
  cases hstep with
  | refused => exact h
  | applied memory => exact h.congr (sameCounts_of_modules rfl) fun _ _ => Or.inl
  | bound name hname hdep memory =>
    exact (h.addDependency (used_of_resolve hname).1 hdep).congr (sameCounts_of_modules rfl)
      fun _ _ => Or.inl
  | boundRefused name hname hdep => exact h.addDependency (used_of_resolve hname).1 hdep
  | full hdep => exact h
  | @queued i hi p hp memory =>
    refine h.congr (sameCounts_of_modules rfl) fun j q hq => ?_
    change update s.pendingRelocs i (some p) j = some q at hq
    by_cases hji : j = i
    · rw [hji, update_self] at hq
      rw [← Option.some.inj hq, hp]
      exact Or.inr h.used
    · rw [update_of_ne hji] at hq
      exact Or.inl hq

lemma ModuleLoader.Beside.sameCounts (h : s.Beside slot s')
    (hown : (s'.modules slot).used = (s.modules slot).used ∧ ((s.modules slot).used = true →
      (s'.modules slot).refCount = (s.modules slot).refCount ∧
      (s'.modules slot).deps = (s.modules slot).deps ∧
      (s'.modules slot).taskRefs = (s.modules slot).taskRefs ∧
      (s'.modules slot).kernelRefs = (s.modules slot).kernelRefs)) : s.SameCounts s' := by
  intro n
  by_cases hns : n = slot
  · rw [hns]
    exact hown
  · rw [h.others n hns]
    exact ⟨rfl, fun _ => ⟨rfl, rfl, rfl, rfl⟩⟩

variable (image) in
lemma linkModule_loading (h : s₀.Loading slot s) (t : SectionTable) :
    s₀.Loading slot (ends (linkModule slot image t s).result) := by
  refine ends_bind (I := s₀.Loading slot)
    (relocate_invariant (fun _ _ _ hs hstep => hstep.loading hs) t _ h) fun s₁ hs₁ => ?_
  obtain ⟨hbeside, exports, initAddr, finiAddr, hown⟩ := exports_exported slot image t s₁
  refine hs₁.congr (hbeside.sameCounts ?_) fun i p hp => Or.inl ?_
  · rw [hown]
    exact ⟨rfl, fun _ => ⟨rfl, rfl, rfl, rfl⟩⟩
  · rwa [hbeside.pending] at hp

lemma ModuleLoader.Loading.placed {cursor : Nat} (h : s₀.Loading slot s)
    (hplaced : s.Placed slot s' cursor) : s₀.Loading slot s' := by
  obtain ⟨hbeside, base, hown⟩ := hplaced
  have hcursor : s₀.Loading slot { s with poolCursor := cursor } :=
    h.congr (sameCounts_of_modules rfl) fun _ _ => Or.inl
  refine hcursor.congr (hbeside.sameCounts ?_) fun i p hp => Or.inl ?_
  · rw [hown]
    exact ⟨rfl, fun _ => ⟨rfl, rfl, rfl, rfl⟩⟩
  · rwa [hbeside.pending] at hp

lemma loadObjectFromImage_loading (h : s₀.Loading slot s)
    (hok : (loadObjectFromImage pool slot image s).result = .ok s') : s₀.Loading slot s' := by
  rcases loadObjectFromImage_cases pool slot image s with ⟨-, hres⟩ | ⟨-, cursor, s₁, -, -, hres⟩ |
    ⟨-, cursor, t, s₁, -, hplaced, hres⟩
  · rw [hres] at hok
    cases hok
  · rw [hres] at hok
    cases hok
  · have hends := linkModule_loading image (h.placed hplaced) t
    rwa [← hres, hok] at hends

lemma loadObjectFromImage_fails (hunbound : s.Unbound slot)
    (hfails : (loadObjectFromImage pool slot image s).result = .error s')
    (hclean : image.BindsNothingAfter s (layout pool image s.poolCursor)) :
    ∃ cursor, ModuleLoader.Beside slot { s with poolCursor := cursor } s' := by
  rcases loadObjectFromImage_cases pool slot image s with ⟨-, hres⟩ |
    ⟨-, cursor, s₁, -, hplaced, hres⟩ | ⟨-, cursor, t, s₁, hlayout, hplaced, hres⟩
  · rw [hres] at hfails
    cases hfails
    exact ⟨s.poolCursor, .refl s⟩
  · rw [hres] at hfails
    cases hfails
    exact ⟨cursor, hplaced.beside⟩
  rw [hlayout] at hclean
  obtain ⟨base, hown⟩ := hplaced.own
  have hunbound₁ : s₁.Unbound slot := ⟨by rw [hown]; exact hunbound.deps,
    by rw [hown]; exact hunbound.exports⟩
  have hfates := fates_congr (s := { s with poolCursor := cursor }) image
    (Or.inr hunbound.exports) (Or.inr hunbound₁.exports) hplaced.beside t
  rcases linkModule_ends image hunbound₁ t with ⟨-, hbeside⟩ | ⟨hfirst, -⟩
  · rw [← hres, hfails] at hbeside
    exact ⟨cursor, hplaced.beside.trans hbeside⟩
  · rw [hfates] at hfirst
    exact absurd hclean hfirst

/-- What a call of `load_new_module` does to the counts: it fails and does nothing, or it owes a
reference to the module. When that is all that the module has been counted for, its dependencies
are held by others too. -/
structure LoadCounted (slot : Fin 12) (s' : ModuleLoader) : Prop where
  used : (s'.modules slot).used = true
  counted : s'.Counted (owedTo slot)
  held : s'.Held
  deps : (s'.modules slot).refCount = 1 → ∀ d ∈ (s'.modules slot).deps,
    2 ≤ (s'.modules d).refCount

lemma loadNewModule_counted {path : CString} {kind : NsModuleKind} {file : ModuleFile}
    (hcounted : s.Counted 0) (hheld : s.Held) (hclean : FailsCleanly pool path kind file s) :
    (∃ s', (loadNewModule pool path kind file s).result = .error s' ∧ s'.Counted 0 ∧ s'.Held) ∨
      ∃ slot s', (loadNewModule pool path kind file s).result = .ok (s', handleOf slot) ∧
        LoadCounted slot s' := by
  rcases loadNewModule_cases pool path kind file s with ⟨-, hres⟩ | ⟨slot, hfind, hres⟩ |
    ⟨slot, -, -, -, halloc, hres⟩
  · exact Or.inl ⟨s, hres, hcounted, hheld⟩
  · have hused := (s.used_of_findModuleSlotByPath hfind).1
    have hpos := hheld slot hused
    refine Or.inr ⟨slot, _, hres, ?_, ?_, fun m hm => ?_, fun hone => ?_⟩
    · rw [modify_self]
      exact hused
    · refine hcounted.modify rfl rfl (hcounted.refs slot) (fun _ => ?_) fun m hm => ?_
      · simp only [NsLoadedObject.directRefs, owedTo, if_pos, Pi.zero_apply]
        omega
      · simp [owedTo, hm]
    · by_cases hms : m = slot
      · rw [hms, modify_self]
        simp only
        omega
      · rw [modify_of_ne _ hms] at hm ⊢
        exact hheld m hm
    · rw [modify_self] at hone
      simp only at hone
      omega
  have hfree := not_used_of_alloc halloc
  have hstart := hcounted.starting hfree kind path
  cases hload : (loadObjectFromImage pool slot file.image (s.starting slot kind path)).result with
  | error s₁ =>
    rw [hload] at hres
    have hclean' : file.image.BindsNothingAfter (s.starting slot kind path)
        (layout pool file.image s.poolCursor) := by
      rcases hclean with hok | hclean
      · rw [hres] at hok
        cases hok
      · cases hlayout : layout pool file.image s.poolCursor with
        | error cursor => trivial
        | ok l =>
          rw [hlayout] at hclean
          change RefusedFirst (file.image.fates (s.starting slot kind path) l.2)
          rw [fates_starting hfree]
          exact hclean
    obtain ⟨cursor, hbeside⟩ := loadObjectFromImage_fails
      (by constructor <;> rw [ModuleLoader.starting, modify_self] <;> rfl) hload hclean'
    have hsame : s.SameCounts (s₁.modify slot fun _ => .zero) := by
      intro n
      by_cases hns : n = slot
      · rw [hns, modify_self, hfree]
        exact ⟨rfl, fun h => by cases h⟩
      · rw [modify_of_ne _ hns, hbeside.others n hns]
        rw [ModuleLoader.starting, modify_of_ne _ hns]
        exact ⟨rfl, fun _ => ⟨rfl, rfl, rfl, rfl⟩⟩
    refine Or.inl ⟨_, hres, hcounted.congr hsame fun i p hp => Or.inl ?_, hsame.held hheld⟩
    rwa [show (s₁.modify slot fun _ => .zero).pendingRelocs = s₁.pendingRelocs from rfl,
      hbeside.pending] at hp
  | ok s₁ =>
    rw [hload] at hres
    have hloading := loadObjectFromImage_loading hstart hload
    refine Or.inr ⟨slot, s₁, hres, hloading.used, hloading.counted, fun m hm => ?_, fun hone => ?_⟩
    · by_cases hms : m = slot
      · rw [hms]
        exact hloading.own
      · obtain ⟨hused, hcount⟩ := hloading.others m hms hm
        have hpos := hheld m hused
        split_ifs at hcount <;> omega
    · intro d hd
      have hcount := hloading.counted.counts slot hloading.used
      have hrefs := hloading.counted.refs slot hloading.used
      have hdirect := NsLoadedObject.directRefs_nonneg hrefs.1 hrefs.2
      have hcard : (s₁.dependents slot).card = 0 := by
        simp only [owedTo, if_pos] at hcount
        omega
      have hds : d ≠ slot := by
        rintro rfl
        have hmem := mem_dependents.2 ⟨hloading.used, hd⟩
        rw [Finset.card_eq_zero.1 hcard] at hmem
        cases hmem
      obtain ⟨hused, hcount⟩ := hloading.others d hds (hloading.counted.deps slot hloading.used d hd)
      have hpos := hheld d hused
      rw [if_pos hd] at hcount
      omega

/-! ### Relocations that waited -/

lemma ModuleLoader.Held.addDependency (h : s.Held) {owner : Fin 12}
    (hdep : s.addDependency slot (some owner) = some s') : s'.Held := by
  rcases addDependency_cases hdep with ⟨-, rfl⟩ | ⟨-, -, rfl⟩
  · exact h
  intro m hm
  by_cases hmo : m = owner
  · subst hmo
    rw [modify_self] at hm ⊢
    by_cases hms : m = slot
    · subst hms
      rw [modify_self] at hm ⊢
      have := h m hm
      simp only
      omega
    · rw [modify_of_ne _ hms] at hm ⊢
      have := h m hm
      simp only
      omega
  · rw [modify_of_ne _ hmo] at hm ⊢
    by_cases hms : m = slot
    · subst hms
      rw [modify_self] at hm ⊢
      exact h m hm
    · rw [modify_of_ne _ hms] at hm ⊢
      exact h m hm

lemma result_patchPending (p : NsPendingReloc) (s : ModuleLoader) (word : Option Nat) :
    ∃ memory, (patchPending p s word).result = .ok { s with memory := memory } := by
  cases word with
  | none => exact ⟨s.memory, rfl⟩
  | some v => exact ⟨storeWord s.memory p.place v, rfl⟩

/-- The counts are right and every module in use has been counted. -/
structure ModuleLoader.Sound (s : ModuleLoader) : Prop where
  counted : s.Counted 0
  held : s.Held

lemma ModuleLoader.Sound.congr (h : s.Sound) (hsame : s.SameCounts s')
    (hpending : ∀ i p, s'.pendingRelocs i = some p → s.pendingRelocs i = some p) : s'.Sound :=
  ⟨h.counted.congr hsame fun i p hp => Or.inl (hpending i p hp), hsame.held h.held⟩

lemma ModuleLoader.Sound.message (h : s.Sound) (task : Fin 8) (msg : String) :
    (s.setDlerrorForTask task msg).Sound :=
  h.congr (sameCounts_of_modules rfl) fun _ _ => id

lemma ModuleLoader.Sound.addDependency (h : s.Sound) (hslot : (s.modules slot).used = true)
    {name : CString} {addr : Nat} {owner : Option (Fin 12)}
    (hname : s.resolveExternalSymbol name = some (addr, owner)) :
    ((s.addDependency slot owner).getD s).Sound := by
  cases owner with
  | none => exact h
  | some owner =>
    cases hdep : s.addDependency slot (some owner) with
    | none => exact h
    | some s' =>
      exact ⟨h.counted.addDependency hslot (used_of_resolve hname).1 hdep,
        h.held.addDependency hdep⟩

lemma tryResolve_sound (h : s.Sound) (n : Nat) (i : Fin 192) :
    ∃ l, (tryResolve (s, n) i).result = .ok l ∧ l.1.Sound := by
  cases hp : s.pendingRelocs i with
  | none => exact ⟨(s, n), by simp only [tryResolve, hp]; rfl, h⟩
  | some p =>
    cases hname : s.resolveExternalSymbol p.symbol.chars with
    | none => exact ⟨(s, n + 1), by simp only [tryResolve, hp, hname]; rfl, h⟩
    | some found =>
      obtain ⟨addr, owner⟩ := found
      obtain ⟨memory, hpatch⟩ := result_patchPending p s (pendingWord p addr)
      generalize hs₁ : ({ s with memory := memory } : ModuleLoader) = s₁ at hpatch
      refine ⟨(((s₁.addDependency p.targetSlot owner).getD s₁).setPending i none, n), ?_, ?_⟩
      · simp only [tryResolve, hp, hname]
        rw [result_bind_ok hpatch]
        rfl
      have hpatched : s₁.Sound := hs₁ ▸ h.congr (sameCounts_of_modules rfl) fun _ _ => id
      have htarget : (s₁.modules p.targetSlot).used = true := hs₁ ▸ h.counted.waiting i p hp
      have hname₁ : s₁.resolveExternalSymbol p.symbol.chars = some (addr, owner) := by
        rw [← hs₁]
        exact hname
      have hdep := hpatched.addDependency htarget hname₁
      generalize (s₁.addDependency p.targetSlot owner).getD s₁ = s₂ at hdep ⊢
      refine hdep.congr (sameCounts_of_modules rfl) fun j q hq => ?_
      change update s₂.pendingRelocs i none j = some q at hq
      by_cases hji : j = i
      · rw [hji, update_self] at hq
        cases hq
      · rwa [update_of_ne hji] at hq

lemma tryResolvePendingRelocs_sound (h : s.Sound) :
    ∃ l, (tryResolvePendingRelocs s).result = .ok l ∧ l.1.Sound :=
  foldlM_ok_invariant (I := fun l : ModuleLoader × Nat => l.1.Sound)
    (fun l i _ hl => tryResolve_sound hl l.2 i) h

/-! ### Releasing -/

variable (slot) in
lemma releaseModuleSlot_of_pos (fuel : Nat) (runFini : Bool)
    (hpos : 0 < (s.modules slot).refCount) :
    ∃ b, (releaseModuleSlot fuel slot runFini s).result = .ok (s, b) := by
  cases fuel with
  | zero => exact ⟨_, rfl⟩
  | succ fuel =>
    rw [releaseModuleSlot]
    by_cases hused : ¬ (s.modules slot).used
    · rw [if_pos hused]
      exact ⟨_, rfl⟩
    · rw [if_neg hused, if_pos hpos]
      exact ⟨_, rfl⟩

/-- Every dependency is counted down, and none is unloaded as long as all are held by others. -/
lemma result_releaseDeps (fuel : Nat) {l : List (Fin 12)} (hl : l.Nodup)
    (hdeps : ∀ d ∈ l, (s.modules d).used = true ∧ 2 ≤ (s.modules d).refCount) :
    ∃ s', (l.foldlM (fun s dep =>
        if (s.modules dep).used ∧ 0 < (s.modules dep).refCount then do
          let (s, _) ← releaseModuleSlot fuel dep false
            (s.modify dep fun m => { m with refCount := m.refCount - 1 })
          return s
        else (return s : Loads ModuleLoader)) s).result = .ok s' ∧
      s'.pendingRelocs = s.pendingRelocs ∧ ∀ n, s'.modules n =
        { s.modules n with
          refCount := (s.modules n).refCount - if n ∈ l then 1 else 0 } := by
  induction l generalizing s with
  | nil => exact ⟨s, rfl, rfl, fun n => by simp⟩
  | cons d l ih =>
    obtain ⟨hd, hl⟩ := List.nodup_cons.1 hl
    obtain ⟨hused, hcount⟩ := hdeps d List.mem_cons_self
    rw [List.foldlM_cons, if_pos ⟨hused, by omega⟩]
    generalize hs₁ : (s.modify d fun m => { m with refCount := m.refCount - 1 }) = s₁
    have hown : s₁.modules d = { s.modules d with refCount := (s.modules d).refCount - 1 } := by
      rw [← hs₁, modify_self]
    have hothers : ∀ n ≠ d, s₁.modules n = s.modules n := fun n hn => by
      rw [← hs₁, modify_of_ne _ hn]
    obtain ⟨b, hrelease⟩ := releaseModuleSlot_of_pos (s := s₁) d fuel false (by
      rw [hown]
      simp only
      omega)
    obtain ⟨s', hres, hpending, hmodules⟩ := ih (s := s₁) hl fun d' hd' => by
      rw [hothers d' fun h => hd (h ▸ hd')]
      exact hdeps d' (List.mem_cons_of_mem d hd')
    refine ⟨s', ?_, ?_, fun n => ?_⟩
    · rw [result_bind_ok (a := s₁) (by rw [result_bind_ok hrelease]; rfl)]
      exact hres
    · rw [hpending, ← hs₁]
      rfl
    · rw [hmodules n]
      by_cases hn : n = d
      · subst hn
        rw [hown]
        simp [hd]
      · rw [hothers n hn]
        simp [hn]

/-- Everything in use was in use before, with the same dependencies. -/
def ModuleLoader.Shrunk (s s' : ModuleLoader) : Prop :=
  ∀ n, (s'.modules n).used = true →
    (s.modules n).used = true ∧ (s'.modules n).deps = (s.modules n).deps

/-- A module without a reference is unloaded, and its dependencies are held by others. -/
lemma unload_sound (hcounted : s.Counted 0) (hused : (s.modules slot).used = true)
    (hzero : (s.modules slot).refCount = 0)
    (hheld : ∀ m ≠ slot, (s.modules m).used = true → 0 < (s.modules m).refCount)
    (hdeps : ∀ d ∈ (s.modules slot).deps, 2 ≤ (s.modules d).refCount) (fuel : Nat)
    (runFini : Bool) :
    ∃ s', (releaseModuleSlot (fuel + 1) slot runFini s).result = .ok (s', true) ∧ s'.Sound ∧
      s.Shrunk s' ∧ (s'.modules slot).used = false := by
  have hcount := hcounted.counts slot hused
  have hrefs := hcounted.refs slot hused
  have hdirect := NsLoadedObject.directRefs_nonneg hrefs.1 hrefs.2
  rw [Pi.zero_apply] at hcount
  have hcard : (s.dependents slot).card = 0 := by omega
  have hnone : ∀ n, (s.modules n).used = true → slot ∉ (s.modules n).deps := by
    intro n hn hmem
    have := mem_dependents.2 ⟨hn, hmem⟩
    rw [Finset.card_eq_zero.1 hcard] at this
    cases this
  have hfree : ¬ s.moduleHasDependents slot := by
    rintro ⟨n, hn, -, hmem⟩
    exact hnone n hn hmem
  obtain ⟨s₁, hloop, hpending, hmodules⟩ := result_releaseDeps fuel (hcounted.nodup slot hused)
    fun d hd => ⟨hcounted.deps slot hused d hd, hdeps d hd⟩
  refine ⟨(s₁.dropPending slot).modify slot fun _ => .zero, ?_, ?_⟩
  · rw [releaseModuleSlot, if_neg (not_not.2 hused), if_neg (by omega), if_neg hfree]
    split_ifs with hfini
    · exact (result_bind_ok (a := ()) rfl).trans (result_bind_ok hloop)
    · exact result_bind_ok hloop
  generalize hs' : ((s₁.dropPending slot).modify slot fun _ => NsLoadedObject.zero) = s'
  have hgone : (s'.modules slot).used = false := by
    rw [← hs', modify_self]
    rfl
  have hstays : ∀ n ≠ slot, s'.modules n = { s.modules n with
      refCount := (s.modules n).refCount - if n ∈ (s.modules slot).deps then 1 else 0 } := by
    intro n hn
    rw [← hs', modify_of_ne _ hn]
    exact hmodules n
  have hne : ∀ n, (s'.modules n).used = true → n ≠ slot := fun n hn hns => by
    rw [hns, hgone] at hn
    cases hn
  have hsame : ∀ n, (s'.modules n).used = true → (s.modules n).used = true := fun n hn => by
    rw [hstays n (hne n hn)] at hn
    exact hn
  have hdependents : ∀ m, ((s'.dependents m).card : Int) =
      (s.dependents m).card - if m ∈ (s.modules slot).deps then 1 else 0 := by
    intro m
    have hset : s'.dependents m = (s.dependents m).erase slot := by
      ext n
      rw [Finset.mem_erase, mem_dependents, mem_dependents]
      by_cases hns : n = slot
      · simp [hns, hgone]
      · rw [hstays n hns]
        simp [hns]
    rw [hset]
    split_ifs with hmem
    · have hin := mem_dependents.2 ⟨hused, hmem⟩
      have hpos := Finset.card_pos.2 ⟨slot, hin⟩
      rw [Finset.card_erase_of_mem hin]
      omega
    · rw [Finset.erase_eq_of_notMem fun hin => hmem (mem_dependents.1 hin).2, sub_zero]
  refine ⟨⟨⟨fun m hm => ?_, fun m hm => ?_, fun n hn => ?_, fun n hn d hd => ?_, fun i p hp => ?_⟩,
    fun m hm => ?_⟩, fun n hn => ⟨hsame n hn, by rw [hstays n (hne n hn)]⟩, hgone⟩
  · have hcounts := hcounted.counts m (hsame m hm)
    rw [hdependents, hstays m (hne m hm)]
    simp only [NsLoadedObject.directRefs] at hcounts ⊢
    omega
  · rw [hstays m (hne m hm)]
    exact hcounted.refs m (hsame m hm)
  · rw [hstays n (hne n hn)]
    exact hcounted.nodup n (hsame n hn)
  · rw [hstays n (hne n hn)] at hd
    rw [hstays d fun hds => hnone n (hsame n hn) (hds ▸ hd)]
    exact hcounted.deps n (hsame n hn) d hd
  · have hp' : (s.pendingRelocs i).filter (fun p => p.targetSlot ≠ slot) = some p := by
      rw [← hpending, ← hp, ← hs']
      rfl
    obtain ⟨hold, hother⟩ := Option.filter_eq_some_iff.1 hp'
    rw [hstays _ (of_decide_eq_true hother)]
    exact hcounted.waiting i p hold
  · have hpos := hheld m (hne m hm) (hsame m hm)
    rw [hstays m (hne m hm)]
    split_ifs with hmem
    · have htwo := hdeps m hmem
      simp only
      omega
    · simpa using hpos

/-- What is left when a reference was dropped is released: the module goes when that was the last
one. -/
lemma releaseSlot_sound (hcounted : s.Counted 0) (hused : (s.modules slot).used = true)
    (hheld : ∀ m ≠ slot, (s.modules m).used = true → 0 < (s.modules m).refCount)
    (hdeps : (s.modules slot).refCount = 0 →
      ∀ d ∈ (s.modules slot).deps, 2 ≤ (s.modules d).refCount) (runFini : Bool) :
    ∃ s' b, (releaseSlot slot runFini s).result = .ok (s', b) ∧ s'.Sound ∧ s.Shrunk s' ∧
      ((s.modules slot).refCount = 0 → b = true ∧ (s'.modules slot).used = false) := by
  by_cases hzero : (s.modules slot).refCount = 0
  · obtain ⟨s', hres, hsound, hshrunk, hgone⟩ :=
      unload_sound hcounted hused hzero hheld (hdeps hzero) 12 runFini
    exact ⟨s', true, hres, hsound, hshrunk, fun _ => ⟨rfl, hgone⟩⟩
  · have hcount := hcounted.counts slot hused
    have hrefs := hcounted.refs slot hused
    have hdirect := NsLoadedObject.directRefs_nonneg hrefs.1 hrefs.2
    rw [Pi.zero_apply] at hcount
    have hpos : 0 < (s.modules slot).refCount := by omega
    obtain ⟨b, hres⟩ := releaseModuleSlot_of_pos slot 13 runFini hpos
    refine ⟨s, b, hres, ⟨hcounted, fun m hm => ?_⟩, fun n hn => ⟨hn, rfl⟩, fun h => absurd h hzero⟩
    by_cases hms : m = slot
    · rw [hms]
      exact hpos
    · exact hheld m hms hm

/-! ### The calls -/

lemma NsLoadedObject.sum_update_taskRefs (m : NsLoadedObject) (task : Fin 8) (c : Int) :
    ∑ t, update m.taskRefs task (m.taskRefs task + c) t = (∑ t, m.taskRefs t) + c := by
  rw [Finset.sum_update_of_mem (Finset.mem_univ task),
    Finset.sum_eq_add_sum_sdiff_singleton_of_mem (Finset.mem_univ task) m.taskRefs]
  ring

lemma NsLoadedObject.update_taskRefs_nonneg {m : NsLoadedObject} (h : ∀ t, 0 ≤ m.taskRefs t)
    (task : Fin 8) {v : Int} (hv : 0 ≤ v) (t : Fin 8) :
    0 ≤ update m.taskRefs task v t := by
  by_cases ht : t = task
  · rw [ht, update_self]
    exact hv
  · rw [update_of_ne ht]
    exact h t

/-- A reference that is entered or dropped: only the references and the count change. -/
structure NsLoadedObject.Refs (c count : Int) (m m' : NsLoadedObject) : Prop where
  used : m'.used = m.used
  deps : m'.deps = m.deps
  refCount : m'.refCount = m.refCount + count
  directRefs : m'.directRefs = m.directRefs + c
  taskRefs : ∀ t, 0 ≤ m'.taskRefs t
  kernelRefs : 0 ≤ m'.kernelRefs

lemma LoadCounted.enter (h : LoadCounted slot s) {f : NsLoadedObject → NsLoadedObject}
    (hf : (s.modules slot).Refs 1 0 (f (s.modules slot))) : (s.modify slot f).Sound := by
  refine ⟨h.counted.modify hf.used hf.deps (fun _ => ⟨hf.taskRefs, hf.kernelRefs⟩) (fun _ => ?_)
    fun m hm => ?_, fun m hm => ?_⟩
  · rw [hf.refCount, hf.directRefs]
    simp only [owedTo, if_pos, Pi.zero_apply]
    ring
  · simp [owedTo, hm]
  · by_cases hms : m = slot
    · rw [hms, modify_self, hf.refCount, add_zero]
      exact h.held slot h.used
    · rw [modify_of_ne _ hms] at hm ⊢
      exact h.held m hm

/-- A reference is dropped, and the module released. -/
lemma ModuleLoader.Sound.drop (h : s.Sound) (hused : (s.modules slot).used = true)
    {f : NsLoadedObject → NsLoadedObject} (hf : (s.modules slot).Refs (-1) (-1) (f (s.modules slot)))
    (hdeps : (s.modules slot).refCount = 1 →
      ∀ d ∈ (s.modules slot).deps, 2 ≤ (s.modules d).refCount) (runFini : Bool) :
    ∃ s' b, (releaseSlot slot runFini (s.modify slot f)).result = .ok (s', b) ∧ s'.Sound ∧
      s.Shrunk s' ∧
      ((s.modules slot).refCount = 1 → b = true ∧ (s'.modules slot).used = false) := by
  have hcounted : (s.modify slot f).Counted 0 := by
    refine h.counted.modify hf.used hf.deps (fun _ => ⟨hf.taskRefs, hf.kernelRefs⟩) (fun _ => ?_)
      fun _ _ => rfl
    rw [hf.refCount, hf.directRefs]
    ring
  have hzero : ((s.modify slot f).modules slot).refCount = 0 ↔ (s.modules slot).refCount = 1 := by
    rw [modify_self, hf.refCount]
    omega
  have hused' : ((s.modify slot f).modules slot).used = true := by
    rw [modify_self, hf.used]
    exact hused
  obtain ⟨s', b, hres, hsound, hshrunk, hgone⟩ := releaseSlot_sound hcounted hused'
    (fun m hm hmused => by rw [modify_of_ne _ hm] at hmused ⊢; exact h.held m hmused)
    (fun hz d hd => by
      rw [hzero] at hz
      rw [modify_self, hf.deps] at hd
      have htwo := hdeps hz d hd
      have hds : d ≠ slot := by
        rintro rfl
        omega
      rwa [modify_of_ne _ hds]) runFini
  refine ⟨s', b, hres, hsound, fun n hn => ?_, fun hone => hgone (hzero.2 hone)⟩
  obtain ⟨hn, hsame⟩ := hshrunk n hn
  by_cases hns : n = slot
  · rw [hns, modify_self] at hn hsame
    rw [hns, hsame, ← hf.used]
    exact ⟨hn, hf.deps⟩
  · rw [modify_of_ne _ hns] at hn hsame
    exact ⟨hn, hsame⟩

section

variable {m : NsLoadedObject}

section

variable (hm : ∀ t, 0 ≤ m.taskRefs t) (hkernel : 0 ≤ m.kernelRefs)
include hm hkernel

lemma NsLoadedObject.refs_enterTask (task : Fin 8) : m.Refs 1 0
    { m with taskRefs := update m.taskRefs task (m.taskRefs task + 1) } where
  used := rfl
  deps := rfl
  refCount := (add_zero _).symm
  directRefs := by
    simp only [directRefs, m.sum_update_taskRefs]
    ring
  taskRefs := update_taskRefs_nonneg hm task (by have := hm task; omega)
  kernelRefs := hkernel

lemma NsLoadedObject.refs_enterKernel : m.Refs 1 0 { m with kernelRefs := m.kernelRefs + 1 } where
  used := rfl
  deps := rfl
  refCount := (add_zero _).symm
  directRefs := by
    simp only [directRefs]
    ring
  taskRefs := hm
  kernelRefs := by simpa using hkernel.trans (Int.le_add_one le_rfl)

lemma NsLoadedObject.refs_dropTask {task : Fin 8} (hpos : 0 < m.refCount)
    (htask : 0 < m.taskRefs task) : m.Refs (-1) (-1)
      { m with taskRefs := update m.taskRefs task (m.taskRefs task - 1) }.unref where
  used := rfl
  deps := rfl
  refCount := if_pos hpos
  directRefs := by
    have hsum := m.sum_update_taskRefs task (-1)
    simp only [unref, directRefs, sub_eq_add_neg, hsum]
    ring
  taskRefs := update_taskRefs_nonneg hm task (by omega)
  kernelRefs := hkernel

end

lemma NsLoadedObject.refs_dropKernel (hm : ∀ t, 0 ≤ m.taskRefs t) (hpos : 0 < m.refCount)
    (href : 0 < m.kernelRefs) : m.Refs (-1) (-1)
      { m with kernelRefs := m.kernelRefs - 1 }.unref where
  used := rfl
  deps := rfl
  refCount := if_pos hpos
  directRefs := by
    simp only [unref, directRefs]
    ring
  taskRefs := hm
  kernelRefs := by
    simp only [unref]
    omega

end

variable {op : ModuleOp}

/-- What a call leaves, and that it unloads a module that it drops the last reference to. -/
structure Drops (s : ModuleLoader) (op : ModuleOp) (s' : ModuleLoader) : Prop where
  sound : s'.Sound
  shrunk : (s.dropped op).isSome = true → s.Shrunk s'
  gone : ∀ slot ∈ s.dropped op, (s.modules slot).refCount = 1 → (s'.modules slot).used = false

lemma Drops.of_none (h : s'.Sound) (hnone : s.dropped op = none) : Drops s op s' where
  sound := h
  shrunk hsome := by simp [hnone] at hsome
  gone slot hslot := by simp [hnone] at hslot

lemma Drops.of_some (h : s'.Sound) (hshrunk : s.Shrunk s') (hslot : s.dropped op = some slot)
    (hgone : (s.modules slot).refCount = 1 → (s'.modules slot).used = false) : Drops s op s' where
  sound := h
  shrunk _ := hshrunk
  gone slot' hslot' := by
    rw [hslot] at hslot'
    rwa [← Option.some.inj hslot']

lemma ModuleLoader.find_clearDlerror (s : ModuleLoader) (t : Fin 8) (handle : Int) :
    (s.clearDlerrorForTask t).findModuleSlotByHandle handle = s.findModuleSlotByHandle handle := rfl

section

variable (h : s.Sound)
include h

lemma moduleDlclose_drops (task handle : Int)
    (hdeps : ∀ slot ∈ s.dropped (.dlclose task handle), (s.modules slot).refCount = 1 →
      ∀ d ∈ (s.modules slot).deps, 2 ≤ (s.modules d).refCount) :
    Drops s (.dlclose task handle) (moduleStep pool s (.dlclose task handle)).1 := by
  cases htask : taskSlot task with
  | none =>
    simp only [moduleStep, moduleCall, moduleDlcloseForTask, htask]
    exact .of_none h (by simp [dropped, htask])
  | some t =>
    have hclear : (s.clearDlerrorForTask t).Sound := h.message t ""
    cases hfind : s.findModuleSlotByHandle handle with
    | none =>
      simp only [moduleStep, moduleCall, moduleDlcloseForTask, htask, find_clearDlerror, hfind]
      exact .of_none (hclear.message ..) (by simp [dropped, htask, hfind])
    | some slot =>
      simp only [moduleStep, moduleCall, moduleDlcloseForTask, htask, find_clearDlerror, hfind]
      have hused := (s.used_of_findModuleSlotByHandle hfind).1
      split_ifs with hkind href
      · have hkind' : (s.modules slot).kind ≠ .library := hkind
        exact .of_none (hclear.message ..) (by simp [dropped, htask, hfind, hkind'])
      · have href' : (s.modules slot).taskRefs t ≤ 0 := href
        exact .of_none (hclear.message ..) (by simp [dropped, htask, hfind, href'])
      have hkind' : (s.modules slot).kind = .library := not_not.1 hkind
      have href' : 0 < (s.modules slot).taskRefs t := not_le.1 href
      have hdropped : s.dropped (.dlclose task handle) = some slot := by
        simp only [dropped, htask, hfind, Option.bind_some]
        exact Option.filter_eq_some_iff.2 ⟨rfl, by simp [hkind', href']⟩
      have hrefs := h.counted.refs slot hused
      have hf := NsLoadedObject.refs_dropTask hrefs.1 hrefs.2 (h.held slot hused) href'
      obtain ⟨s', b, hres, hsound, hshrunk, hgone⟩ := hclear.drop hused
        (f := fun m => NsLoadedObject.unref
          { m with taskRefs := update m.taskRefs t (m.taskRefs t - 1) }) hf
        (hdeps slot hdropped) false
      rw [result_bind_ok hres]
      cases b with
      | false =>
        refine .of_some (hsound.message ..) hshrunk hdropped fun hone => ?_
        cases (hgone hone).1
      | true => exact .of_some hsound hshrunk hdropped fun hone => (hgone hone).2

lemma moduleRmmod_drops (text : CString)
    (hdeps : ∀ slot ∈ s.dropped (.rmmod text), (s.modules slot).refCount = 1 →
      ∀ d ∈ (s.modules slot).deps, 2 ≤ (s.modules d).refCount) :
    Drops s (.rmmod text) (moduleStep pool s (.rmmod text)).1 := by
  simp only [moduleStep, moduleCall, moduleRmmod]
  by_cases htext : text = []
  · rw [if_pos htext]
    exact .of_none (h.message ..) (by simp [dropped, htext])
  rw [if_neg htext]
  cases hfind : s.rmmodSlot text with
  | none => exact .of_none (h.message ..) (by simp [dropped, htext, hfind])
  | some slot =>
    have hused := ModuleLoader.used_of_rmmodSlot hfind
    have hrefs := h.counted.refs slot hused
    simp only
    split_ifs with hkind href hdependents
    · exact .of_none (h.message ..) (by simp [dropped, htext, hfind, hkind])
    · exact .of_none (h.message ..) (by simp [dropped, htext, hfind, href])
    all_goals
      have hdropped : s.dropped (.rmmod text) = some slot := by
        simp only [dropped, if_neg htext, hfind]
        exact Option.filter_eq_some_iff.2 ⟨rfl, by simp [not_not.1 hkind, not_le.1 href]⟩
    · -- the kernel and another module hold it, so it has been counted twice
      refine .of_some (h.message ..) (fun n hn => ⟨hn, rfl⟩) hdropped fun hone => ?_
      obtain ⟨n, hn, -, hmem⟩ := hdependents
      have hcard := Finset.card_pos.2 ⟨n, mem_dependents.2 ⟨hn, hmem⟩⟩
      have hcount := h.counted.counts slot hused
      have hsum := Finset.sum_nonneg fun t (_ : t ∈ Finset.univ) => hrefs.1 t
      simp only [NsLoadedObject.directRefs, Pi.zero_apply] at hcount
      omega
    · obtain ⟨s', b, hres, hsound, hshrunk, hgone⟩ := h.drop hused
        (f := fun m => { m with kernelRefs := m.kernelRefs - 1 }.unref)
        (NsLoadedObject.refs_dropKernel hrefs.1 (h.held slot hused) (not_le.1 href))
        (hdeps slot hdropped) true
      rw [result_bind_ok hres]
      cases b with
      | false =>
        refine .of_some (hsound.message ..) hshrunk hdropped fun hone => ?_
        cases (hgone hone).1
      | true => exact .of_some (hsound.message ..) hshrunk hdropped fun hone => (hgone hone).2

lemma sound_of_resolve {f : ModuleLoader × Nat → Loads (ModuleLoader × Int)}
    (hf : ∀ l : ModuleLoader × Nat, l.1.Sound → (outcome (f l).result).1.Sound) :
    (outcome (tryResolvePendingRelocs s >>= f).result).1.Sound := by
  obtain ⟨l, hres, hsound⟩ := tryResolvePendingRelocs_sound h
  rw [result_bind_ok hres]
  exact hf l hsound

lemma moduleDlopen_sound {task : Int} {path : CString} {file : ModuleFile}
    (hclean : LoadsCleanly pool s (.dlopen task path file)) :
    (moduleStep pool s (.dlopen task path file)).1.Sound := by
  cases htask : taskSlot task with
  | none =>
    simp only [moduleStep, moduleCall, moduleDlopenForTask, htask]
    exact h
  | some t =>
    have hclear : (s.clearDlerrorForTask t).Sound := h.message t ""
    simp only [moduleStep, moduleCall, moduleDlopenForTask, htask]
    rcases loadNewModule_counted hclear.counted hclear.held (hclean t htask) with
      ⟨s₁, hres, hcounted, hheld⟩ | ⟨slot, s₁, hres, hload⟩
    · rw [result_bind_ok ((result_attempt _).trans (congrArg _ hres))]
      exact ModuleLoader.Sound.message ⟨hcounted, hheld⟩ t _
    · rw [result_bind_ok ((result_attempt _).trans (congrArg _ hres))]
      have hrefs := hload.counted.refs slot hload.used
      simp only [findModuleSlotByHandle_handleOf hload.used]
      refine sound_of_resolve (hload.enter (NsLoadedObject.refs_enterTask hrefs.1 hrefs.2 t))
        fun l hl => ?_
      split_ifs
      · exact hl.message ..
      · exact hl

lemma initModule_sound (hused : (s.modules slot).used = true)
    (hkernel : 0 < (s.modules slot).kernelRefs)
    (hdeps : (s.modules slot).refCount = 1 →
      ∀ d ∈ (s.modules slot).deps, 2 ≤ (s.modules d).refCount) (initRc : Int) :
    (ends (initModule slot initRc s).result).Sound := by
  have hcalled : (s.modify slot fun m => { m with initCalled := true }).Sound := by
    refine h.congr (fun n => ?_) fun _ _ => id
    by_cases hn : n = slot
    · rw [hn, modify_self]
      exact ⟨rfl, fun _ => ⟨rfl, rfl, rfl, rfl⟩⟩
    · rw [modify_of_ne _ hn]
      exact ⟨rfl, fun _ => ⟨rfl, rfl, rfl, rfl⟩⟩
  have hrefs := h.counted.refs slot hused
  unfold initModule
  split_ifs with hinit haddr hrc
  · exact h
  · exact hcalled
  · have hf := NsLoadedObject.refs_dropKernel hrefs.1 (h.held slot hused) hkernel
    obtain ⟨s', b, hres, hsound, -⟩ := h.drop hused
      (f := fun m => NsLoadedObject.unref
        { m with kernelRefs := if 0 < m.kernelRefs then m.kernelRefs - 1 else m.kernelRefs })
      (by simpa only [if_pos hkernel] using hf) hdeps false
    exact (congrArg ends (result_bind_ok hres)) ▸ hsound.message ..
  · exact hcalled

lemma moduleInsmod_sound {path : CString} {file : ModuleFile} {initRc : Int}
    (hclean : LoadsCleanly pool s (.insmod path file initRc)) :
    (moduleStep pool s (.insmod path file initRc)).1.Sound := by
  simp only [moduleStep, moduleCall, moduleInsmod]
  rcases loadNewModule_counted h.counted h.held hclean with
    ⟨s₁, hres, hcounted, hheld⟩ | ⟨slot, s₁, hres, hload⟩
  · rw [result_bind_ok ((result_attempt _).trans (congrArg _ hres))]
    exact ModuleLoader.Sound.message ⟨hcounted, hheld⟩ _ _
  rw [result_bind_ok ((result_attempt _).trans (congrArg _ hres))]
  have hrefs := hload.counted.refs slot hload.used
  simp only [findModuleSlotByHandle_handleOf hload.used]
  have hentered := hload.enter (f := fun m => { m with kernelRefs := m.kernelRefs + 1 })
    (NsLoadedObject.refs_enterKernel hrefs.1 hrefs.2)
  generalize hs₂ : (s₁.modify slot fun m => { m with kernelRefs := m.kernelRefs + 1 }) = s₂
    at hentered
  have hown : s₂.modules slot =
      { s₁.modules slot with kernelRefs := (s₁.modules slot).kernelRefs + 1 } := by
    rw [← hs₂, modify_self]
  have hinit := initModule_sound hentered (by rw [hown]; exact hload.used)
    (by rw [hown]; exact Int.lt_add_one_of_le hrefs.2)
    (fun hone d hd => by
      rw [hown] at hone hd
      have htwo := hload.deps hone d hd
      by_cases hds : d = slot
      · subst hds
        rw [hown]
        exact htwo
      · rwa [← hs₂, modify_of_ne _ hds]) initRc
  cases hinited : (initModule slot initRc s₂).result with
  | error s₃ =>
    rw [hinited] at hinit
    rw [(bind_of_error hinited _).2]
    exact hinit
  | ok s₃ =>
    rw [hinited] at hinit
    rw [result_bind_ok hinited]
    refine sound_of_resolve hinit fun l hl => ?_
    split_ifs
    · exact hl.message ..
    · exact hl.message ..

/-! ### Runs -/

lemma sound_step (htidy : Tidy pool s op) : Drops s op (moduleStep pool s op).1 := by
  obtain ⟨hclean, hdeps⟩ := htidy
  cases op with
  | dlopen task path file => exact .of_none (moduleDlopen_sound h hclean) rfl
  | dlclose task handle => exact moduleDlclose_drops h task handle hdeps
  | dlsym handle symbol =>
    obtain ⟨dlerror, hdlsym⟩ := s.moduleDlsym_fst handle symbol
    refine .of_none ?_ rfl
    change (s.moduleDlsym handle symbol).1.Sound
    rw [hdlsym]
    exact h.congr (sameCounts_of_modules rfl) fun _ _ => id
  | insmod path file initRc => exact .of_none (moduleInsmod_sound h hclean) rfl
  | rmmod text => exact moduleRmmod_drops h text hdeps
  | switch task => exact .of_none (h.congr (sameCounts_of_modules rfl) fun _ _ => id) rfl

omit h in
lemma sound_init (addrOf : CString → Nat) (memory : Nat → UInt8) :
    (moduleLoaderInit addrOf memory).Sound := by
  refine ⟨⟨fun m hm => ?_, fun m hm => ?_, fun m hm => ?_, fun m hm => ?_, fun i p hp => ?_⟩,
    fun m hm => ?_⟩
  case refine_5 => cases hp
  all_goals
    cases hm

lemma ModuleLoader.Sound.kept (hacyclic : RefCount.Acyclic s.DependsOn) {m : Fin 12}
    (hm : (s.modules m).used = true) : s.Kept m := by
  refine RefCount.kept_of_held hacyclic (fun y hy => ?_) hm
  have hpos := h.held y hy
  have hcount := h.counted.counts y hy
  rw [Pi.zero_apply] at hcount
  by_cases hdirect : 0 < (s.modules y).directRefs
  · exact Or.inl hdirect
  · obtain ⟨n, hn⟩ := Finset.card_pos.1 (by omega : 0 < (s.dependents y).card)
    have hdep := mem_dependents.1 hn
    exact Or.inr ⟨n, hdep.1, hdep⟩

end

lemma ModuleLoader.used_of_dropped (h : slot ∈ s.dropped op) : (s.modules slot).used = true := by
  cases op with
  | dlclose task handle =>
    obtain ⟨t, -, hfind⟩ := Option.bind_eq_some_iff.1 h
    exact (s.used_of_findModuleSlotByHandle (Option.filter_eq_some_iff.1 hfind).1).1
  | rmmod text =>
    by_cases htext : text = []
    · simp [dropped, htext] at h
    · simp only [dropped, if_neg htext] at h
      exact ModuleLoader.used_of_rmmodSlot (Option.filter_eq_some_iff.1 h).1
  | dlopen | dlsym | insmod | switch => cases h

lemma Drops.unloadsClosure (hsound : s.Sound)
    (h : Drops s op (moduleStep pool s op).1) : UnloadsClosure pool s op := by
  intro slot hslot hdirect hfree hacyclic
  have hused := used_of_dropped hslot
  have hone : (s.modules slot).refCount = 1 := by
    have hcount := hsound.counted.counts slot hused
    have hempty : s.dependents slot = ∅ := by
      refine Finset.eq_empty_iff_forall_notMem.2 fun n hmem => ?_
      have hdep := mem_dependents.1 hmem
      by_cases hns : n = slot
      · exact hacyclic slot (.single (hns ▸ hdep))
      · exact hfree ⟨n, hdep.1, hns, hdep.2⟩
    rw [hcount, hdirect, hempty]
    rfl
  have hshrunk := h.shrunk (Option.isSome_iff_exists.2 ⟨slot, hslot⟩)
  refine ⟨h.gone slot hslot hone, fun m hm => h.sound.kept (hacyclic.mono ?_) hm, h.sound.held⟩
  rintro n d ⟨hn, hmem⟩
  obtain ⟨hn, hsame⟩ := hshrunk n hn
  exact ⟨hn, hsame ▸ hmem⟩

/-- In a run in which no failed load leaves counts behind and no module is unloaded that is the only
one to hold another, dropping the last reference to a module unloads all that it kept. -/
theorem runs_unloadsClosure (pool : ModulePool) (addrOf : CString → Nat) (memory : Nat → UInt8)
    {ops : List ModuleOp}
    (h : Machine.Runs (Tidy pool) (moduleStep pool) (moduleLoaderInit addrOf memory) ops) :
    Machine.Runs (UnloadsClosure pool) (moduleStep pool) (moduleLoaderInit addrOf memory) ops :=
  Machine.runs_of_invariant (I := ModuleLoader.Sound)
    (fun _ _ hsound htidy => (sound_step hsound htidy).sound)
    (fun _ _ hsound htidy => (sound_step hsound htidy).unloadsClosure hsound)
    (sound_init addrOf memory) h

/-- `definesFoo` and a module that uses it are loaded. -/
def fooUses : List ModuleOp :=
  [.dlopen 0 [0x61] (.ofBytes (definesFoo 2)), .dlopen 0 [0x62] (.ofBytes (usesFoo [(1, 0)]))]

/-- The module that uses `foo` is closed; the other is held by a task. -/
theorem runs_unloadsClosure_user :
    Machine.Runs (UnloadsClosure lowPool) (moduleStep lowPool) newLoader
      (fooUses ++ [.dlclose 0 0x4001]) :=
  runs_unloadsClosure lowPool _ _ (by decide +kernel)

/-- `definesFoo` is closed, and not unloaded as long as it is used. -/
def fooClosed : ModuleLoader :=
  Machine.run (moduleStep lowPool) newLoader (fooUses ++ [.dlclose 0 0x4000])

/-- It stays for good when the module that uses it is closed. -/
theorem dlclose_leaves_dependency :
    ¬ ∀ (pool : ModulePool) (addrOf : CString → Nat) (memory : Nat → UInt8) (ops : List ModuleOp),
      Machine.Runs (UnloadsClosure pool) (moduleStep pool) (moduleLoaderInit addrOf memory) ops := by
  intro h
  have hrun := h lowPool (fun _ => 256) (fun _ => 0)
    ((fooUses ++ [.dlclose 0 0x4000]) ++ [.dlclose 0 0x4001])
  have hlast : UnloadsClosure lowPool fooClosed (.dlclose 0 0x4001) :=
    ((Machine.runs_append ..).1 hrun).2.1
  have hedges : ∀ m d, d ∈ (fooClosed.modules m).deps → d.val < m.val := by decide +kernel
  obtain ⟨-, -, hheld⟩ := hlast 1 (by decide +kernel) (by decide +kernel) (by decide +kernel)
    (RefCount.acyclic_of_lt Fin.val fun m d hdep => hedges m d hdep.2)
  exact absurd (hheld 0 (by decide +kernel)) (by decide +kernel)

end

end NeuroSpark.Modules
