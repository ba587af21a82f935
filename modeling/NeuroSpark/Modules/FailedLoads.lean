import NeuroSpark.Modules.LoadSteps

/-!
# Failed loads

When a module cannot be loaded its slot is cleared, and nothing else is undone. The pool stays as it
is then, and so do the counts of the modules that symbols were bound to and the relocations that
were queued. There is no trace exactly when no room was taken and the first relocation that is not
simply applied is refused.
-/

namespace NeuroSpark.Modules

open Logged Word

/-- The records that loads have in common are the same. -/
structure ModuleLoader.SameRecords (s s' : ModuleLoader) : Prop where
  used : ∀ i, (s'.modules i).used = (s.modules i).used
  modules : ∀ i, (s.modules i).used = true → s'.modules i = s.modules i
  pending : s'.pendingRelocs = s.pendingRelocs
  kernelExports : s'.kernelExports = s.kernelExports
  cursor : s'.poolCursor = s.poolCursor

/-- The first relocation that is not simply applied, if there is one, is refused. -/
def RefusedFirst (fates : List RelocFate) : Prop :=
  ∀ fate ∈ fates.find? (· ≠ .applied), fate = .refused

instance (fates : List RelocFate) : Decidable (RefusedFirst fates) :=
  inferInstanceAs (Decidable (∀ fate ∈ fates.find? (· ≠ .applied), fate = .refused))

/-- The fates of all relocations, in order. -/
def ModuleImage.fates (image : ModuleImage) (s : ModuleLoader) (t : SectionTable) :
    List RelocFate :=
  (List.range image.eShnum).flatMap (relocFates image s t)

/-- No room of the pool was taken for the sections, and no symbol is bound and no relocation queued
before one is refused. -/
def ModuleImage.TracelessAfter (image : ModuleImage) (s : ModuleLoader) :
    Except Nat (Nat × SectionTable) → Prop
  | .error cursor => cursor = s.poolCursor
  | .ok (cursor, t) => cursor = s.poolCursor ∧ RefusedFirst (image.fates s t)

instance (image : ModuleImage) (s : ModuleLoader) : ∀ l, Decidable (image.TracelessAfter s l)
  | .error cursor => inferInstanceAs (Decidable (cursor = s.poolCursor))
  | .ok (cursor, t) =>
    inferInstanceAs (Decidable (cursor = s.poolCursor ∧ RefusedFirst (image.fates s t)))

def ModuleImage.Traceless (image : ModuleImage) (pool : ModulePool) (s : ModuleLoader) : Prop :=
  image.TracelessAfter s (layout pool image s.poolCursor)

instance (image : ModuleImage) (pool : ModulePool) (s : ModuleLoader) :
    Decidable (image.Traceless pool s) :=
  inferInstanceAs (Decidable (image.TracelessAfter s _))

section

variable {pool : ModulePool} {slot : Fin 12} {image : ModuleImage} {s₀ s s' s'' : ModuleLoader}
  {fate : RelocFate} {fates : List RelocFate} {res : Except ModuleLoader ModuleLoader}

/-- Counts of other modules do not go down and relocations wait on. -/
structure ModuleLoader.Grows (slot : Fin 12) (s s' : ModuleLoader) : Prop where
  used : ∀ m ≠ slot, (s'.modules m).used = (s.modules m).used
  counts : ∀ m ≠ slot, (s.modules m).refCount ≤ (s'.modules m).refCount
  pending : ∀ i, s.pendingRelocs i ≠ none → s'.pendingRelocs i ≠ none

lemma ModuleLoader.Grows.refl (s : ModuleLoader) : s.Grows slot s :=
  ⟨fun _ _ => rfl, fun _ _ => le_rfl, fun _ => id⟩

lemma ModuleLoader.grows_addDependency {owner : Fin 12}
    (h : s.addDependency slot (some owner) = some s') : s.Grows slot s' := by
  rcases addDependency_cases h with ⟨-, rfl⟩ | ⟨-, -, rfl⟩
  · exact .refl _
  · refine ⟨fun m hm => ?_, fun m hm => ?_, fun _ => id⟩
    · by_cases hmo : m = owner
      · subst hmo
        rw [modify_self, modify_of_ne _ hm]
      · rw [modify_of_ne _ hmo, modify_of_ne _ hm]
    · by_cases hmo : m = owner
      · subst hmo
        rw [modify_self, modify_of_ne _ hm]
        exact Int.le_add_one le_rfl
      · rw [modify_of_ne _ hmo, modify_of_ne _ hm]

lemma RelocStep.grows (h : RelocStep slot s fate res) : s.Grows slot (ends res) := by
  cases h with
  | refused => exact .refl s
  | applied memory => exact ⟨fun _ _ => rfl, fun _ _ => le_rfl, fun _ => id⟩
  | bound name hname hdep memory =>
    obtain ⟨hused, hcounts, hpending⟩ := ModuleLoader.grows_addDependency hdep
    exact ⟨hused, hcounts, hpending⟩
  | boundRefused name hname hdep => exact ModuleLoader.grows_addDependency hdep
  | full hdep => exact .refl s
  | @queued i hi p hp memory =>
    refine ⟨fun _ _ => rfl, fun _ _ => le_rfl, fun j hj => ?_⟩
    change Function.update s.pendingRelocs i (some p) j ≠ none
    by_cases hji : j = i
    · rw [hji, Function.update_self]
      exact Option.some_ne_none p
    · rwa [Function.update_of_ne hji]

/-- A module in use was counted once more, or a place of the waiting relocations was taken. -/
def ModuleLoader.Grown (slot : Fin 12) (s s' : ModuleLoader) : Prop :=
  (∃ m ≠ slot, (s.modules m).used = true ∧ (s.modules m).refCount < (s'.modules m).refCount) ∨
    ∃ i, s.pendingRelocs i = none ∧ s'.pendingRelocs i ≠ none

lemma ModuleLoader.Grown.mono (h : s.Grown slot s') (hgrows : s'.Grows slot s'') :
    s.Grown slot s'' := by
  rcases h with ⟨m, hm, hused, hlt⟩ | ⟨i, hnone, hsome⟩
  · exact Or.inl ⟨m, hm, hused, lt_of_lt_of_le hlt (hgrows.counts m hm)⟩
  · exact Or.inr ⟨i, hnone, hgrows.pending i hsome⟩

lemma ModuleLoader.Grown.beside (h : s.Grown slot s') (hbeside : s'.Beside slot s'') :
    s.Grown slot s'' := by
  rcases h with ⟨m, hm, hused, hlt⟩ | ⟨i, hnone, hsome⟩
  · refine Or.inl ⟨m, hm, hused, ?_⟩
    rwa [hbeside.others m hm]
  · refine Or.inr ⟨i, hnone, ?_⟩
    rwa [hbeside.pending]

lemma ModuleLoader.Grown.of_beside (h : s'.Grown slot s'') (hbeside : s.Beside slot s') :
    s.Grown slot s'' := by
  rcases h with ⟨m, hm, hused, hlt⟩ | ⟨i, hnone, hsome⟩
  · rw [hbeside.others m hm] at hused hlt
    exact Or.inl ⟨m, hm, hused, hlt⟩
  · rw [hbeside.pending] at hnone
    exact Or.inr ⟨i, hnone, hsome⟩

/-! ### The first relocation that changes something -/

/-- Only module memory differs. -/
def ModuleLoader.Same (s s' : ModuleLoader) : Prop := ∃ memory, s' = { s with memory := memory }

/-- How relocations end, by the first fate that is not to be applied. -/
def EndsAs (slot : Fin 12) (s₀ : ModuleLoader) (first : Option RelocFate)
    (res : Except ModuleLoader ModuleLoader) : Prop :=
  match first with
  | none => ∃ s, res = .ok s ∧ s₀.Same s
  | some .refused => ∃ s, res = .error s ∧ s₀.Same s
  | some _ => s₀.Grown slot (ends res)

/-- A part of the load with relocations of these fates: up to the first that is not to be applied
nothing changes, and what has grown stays so. -/
structure Follows (slot : Fin 12) (s₀ : ModuleLoader) (fates : List RelocFate)
    (f : ModuleLoader → Loads ModuleLoader) : Prop where
  same : ∀ s, s₀.Same s → EndsAs slot s₀ (fates.find? (· ≠ .applied)) (f s).result
  grown : ∀ s, s₀.Grown slot s → s₀.Grown slot (ends (f s).result)

lemma Follows.foldlM {α : Type} {f : ModuleLoader → α → Loads ModuleLoader}
    {fatesOf : α → List RelocFate} {l : List α}
    (h : ∀ a ∈ l, Follows slot s₀ (fatesOf a) fun s => f s a) :
    Follows slot s₀ (l.flatMap fatesOf) fun s => l.foldlM f s := by
  refine ⟨?_, fun s => ends_foldlM fun a ha => (h a ha).grown⟩
  induction l with
  | nil => exact fun s hs => ⟨s, rfl, hs⟩
  | cons a l ih =>
    intro s hs
    have hfirst := (h a List.mem_cons_self).same s hs
    have hrest := fun b hb => h b (List.mem_cons_of_mem a hb)
    have hgrown : ∀ s, s₀.Grown slot s → s₀.Grown slot (ends (l.foldlM f s).result) := fun s =>
      ends_foldlM fun b hb => (hrest b hb).grown
    rw [List.flatMap_cons, List.find?_append, List.foldlM_cons]
    cases hfind : (fatesOf a).find? (· ≠ .applied) with
    | none =>
      rw [hfind] at hfirst
      obtain ⟨s₁, hres, hs₁⟩ := hfirst
      rw [(bind_of_ok hres _).2]
      exact ih hrest s₁ hs₁
    | some fate =>
      rw [hfind] at hfirst
      cases fate with
      | refused =>
        obtain ⟨s₁, hres, hs₁⟩ := hfirst
        exact ⟨s₁, (bind_of_error hres _).2, hs₁⟩
      | applied => simpa using List.find?_some hfind
      | bound | queued => exact ends_bind hfirst hgrown

lemma ModuleLoader.Same.relocFate (h : s₀.Same s) (t : SectionTable)
    (relSec symSec strSec : Elf32Shdr) (r : Nat) :
    Modules.relocFate image s t relSec symSec strSec r =
      Modules.relocFate image s₀ t relSec symSec strSec r := by
  obtain ⟨memory, rfl⟩ := h
  rfl

/-- A module that is being loaded has no dependencies yet, and nothing is bound to it. -/
structure ModuleLoader.Unbound (slot : Fin 12) (s : ModuleLoader) : Prop where
  deps : (s.modules slot).deps = []
  exports : (s.modules slot).exports = []

lemma ModuleLoader.Unbound.grown (h : s.Unbound slot) {name : CString} {addr : Nat}
    {owner : Fin 12} (hname : s.resolveExternalSymbol name = some (addr, some owner))
    (hdep : s.addDependency slot (some owner) = some s') : s.Grown slot s' := by
  obtain ⟨hused, hexports⟩ := used_of_resolve hname
  have hne : owner ≠ slot := fun heq => hexports (heq ▸ h.exports)
  refine Or.inl ⟨owner, hne, hused, ?_⟩
  rcases addDependency_cases hdep with ⟨hmem, -⟩ | ⟨-, -, rfl⟩
  · rw [h.deps] at hmem
    cases hmem
  · rw [modify_self, modify_of_ne _ hne]
    exact Int.lt_add_one_of_le le_rfl

lemma ModuleLoader.Unbound.not_full (h : s.Unbound slot) (owner : Fin 12) :
    s.addDependency slot (some owner) ≠ none := by
  unfold ModuleLoader.addDependency
  simp [h.deps, maxDeps]

lemma RelocStep.endsAs (hunbound : s₀.Unbound slot) (hs : s₀.Same s)
    (h : RelocStep slot s fate res) : EndsAs slot s₀ ([fate].find? (· ≠ .applied)) res := by
  obtain ⟨memory, rfl⟩ := hs
  have hunbound' : ModuleLoader.Unbound slot { s₀ with memory := memory } :=
    ⟨hunbound.deps, hunbound.exports⟩
  cases h with
  | refused => exact ⟨_, rfl, memory, rfl⟩
  | applied memory' => exact ⟨_, rfl, memory', rfl⟩
  | bound name hname hdep memory' =>
    exact (hunbound'.grown hname hdep).beside ⟨fun _ _ => rfl, rfl, rfl, rfl⟩
  | boundRefused name hname hdep => exact hunbound'.grown hname hdep
  | full hdep => exact absurd hdep (hunbound'.not_full _)
  | @queued i hi p hp memory' =>
    refine Or.inr ⟨i, by simpa using List.find?_some hi, ?_⟩
    change Function.update s₀.pendingRelocs i (some p) i ≠ none
    rw [Function.update_self]
    exact Option.some_ne_none p

variable (image) in
lemma relocateEntry_follows (hunbound : s₀.Unbound slot) (t : SectionTable)
    (relSec symSec strSec : Elf32Shdr) (r : Nat) :
    Follows slot s₀ [relocFate image s₀ t relSec symSec strSec r] fun s =>
      relocateEntry slot image t relSec symSec strSec s r where
  same s hs := by
    have hstep := relocateEntry_step slot image t relSec symSec strSec s r
    rw [hs.relocFate] at hstep
    exact hstep.endsAs hunbound hs
  grown s hs := hs.mono (relocateEntry_step ..).grows

lemma relocateSection_follows (hunbound : s₀.Unbound slot) (t : SectionTable) (i : Nat) :
    Follows slot s₀ (relocFates image s₀ t i) fun s => relocateSection slot image t s i := by
  rcases relocateSection_cases slot image t i with h | h | ⟨relSec, symSec, strSec, n, h⟩
  · rw [(h s₀).1]
    refine ⟨fun s hs => ⟨s, (h s).2, hs⟩, fun s hs => ?_⟩
    rwa [(h s).2]
  · rw [(h s₀).1]
    refine ⟨fun s hs => ⟨s, (h s).2, hs⟩, fun s hs => ?_⟩
    rwa [(h s).2]
  · rw [(h s₀).1, List.map_eq_flatMap]
    have hloop := Follows.foldlM (l := List.range n) fun r _ =>
      relocateEntry_follows image hunbound t relSec symSec strSec r
    refine ⟨fun s hs => ?_, fun s hs => ?_⟩
    · rw [(h s).2]
      exact hloop.same s hs
    · rw [(h s).2]
      exact hloop.grown s hs

variable (image) in
lemma relocations_follow (hunbound : s₀.Unbound slot) (t : SectionTable) :
    Follows slot s₀ (image.fates s₀ t) fun s =>
      (List.range image.eShnum).foldlM (relocateSection slot image t) s :=
  Follows.foldlM fun i _ => relocateSection_follows hunbound t i

/-! ### The whole load -/

variable (image) in
lemma fates_congr (hslot : (s.modules slot).used = false ∨ (s.modules slot).exports = [])
    (hslot' : (s'.modules slot).used = false ∨ (s'.modules slot).exports = [])
    (hbeside : s.Beside slot s') (t : SectionTable) : image.fates s' t = image.fates s t := by
  have hnone : ∀ {m : NsLoadedObject}, m.used = false ∨ m.exports = [] →
      (if m.used then m.exports.map (slot, ·) else []) = [] := by
    rintro m (h | h)
    · simp [h]
    · simp [h]
  have hexports : s'.moduleExports = s.moduleExports := by
    unfold ModuleLoader.moduleExports
    refine List.flatMap_congr fun i _ => ?_
    by_cases hi : i = slot
    · rw [hi, hnone hslot, hnone hslot']
    · rw [hbeside.others i hi]
  have hresolve : s'.resolveExternalSymbol = s.resolveExternalSymbol := by
    funext name
    unfold ModuleLoader.resolveExternalSymbol
    rw [hexports, hbeside.kernelExports]
  have hfree : s'.freePending = s.freePending := by
    unfold ModuleLoader.freePending
    rw [hbeside.pending]
  unfold ModuleImage.fates relocFates relocFate
  rw [hresolve, hfree]

variable (image) in
lemma linkModule_ends (hunbound : s.Unbound slot) (t : SectionTable) :
    (RefusedFirst (image.fates s t) ∧ s.Beside slot (ends (linkModule slot image t s).result)) ∨
      ¬ RefusedFirst (image.fates s t) ∧
        s.Grown slot (ends (linkModule slot image t s).result) := by
  unfold RefusedFirst linkModule
  have hends := (relocations_follow image hunbound t).same s ⟨s.memory, rfl⟩
  cases hfind : (image.fates s t).find? (· ≠ .applied) with
  | none =>
    rw [hfind] at hends
    obtain ⟨s', hres, memory, rfl⟩ := hends
    rw [(bind_of_ok hres _).2]
    refine Or.inl ⟨by simp, ?_⟩
    obtain ⟨hothers, hkernel, hpending, hcursor⟩ := (exports_exported slot image t
      { s with memory := memory }).beside
    exact ⟨hothers, hkernel, hpending, hcursor⟩
  | some fate =>
    rw [hfind] at hends
    have hgrown : ∀ s', s.Grown slot s' → s.Grown slot
        (ends (exportSymbols slot image t s' >>= findEntryPoints slot image t).result) :=
      fun s' hs' => hs'.beside (exports_exported slot image t s').beside
    cases fate with
    | refused =>
      obtain ⟨s', hres, memory, rfl⟩ := hends
      rw [(bind_of_error hres _).2]
      exact Or.inl ⟨by simp, fun _ _ => rfl, rfl, rfl, rfl⟩
    | applied => simpa using List.find?_some hfind
    | bound | queued => exact Or.inr ⟨by simp, ends_bind hends hgrown⟩

/-- How a load ends that gives up: it leaves the records alone, or it moved the cursor or made the
tables grow. -/
lemma loadObjectFromImage_error (hunbound : s.Unbound slot)
    (h : (loadObjectFromImage pool slot image s).result = .error s') :
    ((image.HeaderAccepted → image.Traceless pool s) ∧ s.Beside slot s') ∨
      ¬ (image.HeaderAccepted → image.Traceless pool s) ∧
        (s'.poolCursor ≠ s.poolCursor ∨ s.Grown slot s') := by
  unfold ModuleImage.Traceless ModuleImage.TracelessAfter
  rcases loadObjectFromImage_cases pool slot image s with ⟨hheader, hres⟩ |
    ⟨hheader, cursor, s₁, hlayout, hplaced, hres⟩ | ⟨hheader, cursor, t, s₁, hlayout, hplaced, hres⟩
  · rw [hres] at h
    cases h
    exact Or.inl ⟨fun h => absurd h hheader, .refl s⟩
  · rw [hres] at h
    cases h
    simp only [hheader, hlayout, forall_const]
    by_cases hcursor : cursor = s.poolCursor
    · subst hcursor
      exact Or.inl ⟨rfl, hplaced.beside⟩
    · exact Or.inr ⟨hcursor, Or.inl (by rwa [hplaced.beside.cursor])⟩
  rw [hres] at h
  simp only [hheader, hlayout, forall_const]
  by_cases hcursor : cursor = s.poolCursor
  swap
  · have hkeeps := linkModule_cursor slot image t s₁
    rw [h, ends_error, hplaced.beside.cursor] at hkeeps
    exact Or.inr ⟨fun h => hcursor h.1, Or.inl (by rwa [hkeeps])⟩
  subst hcursor
  obtain ⟨base, hown⟩ := hplaced.own
  have hunbound₁ : s₁.Unbound slot := ⟨by rw [hown]; exact hunbound.deps,
    by rw [hown]; exact hunbound.exports⟩
  have hfates := fates_congr image (Or.inr hunbound.exports)
    (Or.inr hunbound₁.exports) hplaced.beside t
  rw [and_iff_right (rfl : s.poolCursor = s.poolCursor), ← hfates]
  rcases linkModule_ends image hunbound₁ t with ⟨hfirst, hbeside⟩ | ⟨hfirst, hgrown⟩
  · rw [h] at hbeside
    exact Or.inl ⟨hfirst, hplaced.beside.trans hbeside⟩
  · rw [h] at hgrown
    exact Or.inr ⟨hfirst, Or.inr (hgrown.of_beside hplaced.beside)⟩

lemma fates_starting (hfree : (s.modules slot).used = false) (kind : NsModuleKind)
    (path : CString) (t : SectionTable) :
    image.fates (s.starting slot kind path) t = image.fates s t := by
  have hnew : ((s.starting slot kind path).modules slot).exports = [] := by
    rw [ModuleLoader.starting, ModuleLoader.modify_self]
    rfl
  have hstart : s.Beside slot (s.starting slot kind path) := s.beside_modify _
  exact fates_congr image (Or.inl hfree) (Or.inr hnew) hstart t

lemma traceless_starting (hfree : (s.modules slot).used = false) (kind : NsModuleKind)
    (path : CString) :
    image.Traceless pool (s.starting slot kind path) ↔ image.Traceless pool s := by
  unfold ModuleImage.Traceless
  rw [show (s.starting slot kind path).poolCursor = s.poolCursor from rfl]
  cases layout pool image s.poolCursor with
  | error cursor => exact Iff.rfl
  | ok l =>
    simp only [ModuleImage.TracelessAfter, fates_starting hfree]
    rfl

lemma sameRecords_clear_iff (hfree : (s.modules slot).used = false) :
    s.SameRecords (s'.modify slot fun _ => .zero) ↔
      (∀ i ≠ slot, (s'.modules i).used = (s.modules i).used ∧
        ((s.modules i).used = true → s'.modules i = s.modules i)) ∧
      s'.pendingRelocs = s.pendingRelocs ∧ s'.kernelExports = s.kernelExports ∧
      s'.poolCursor = s.poolCursor := by
  constructor
  · rintro ⟨hused, hmodules, hpending, hkernel, hcursor⟩
    refine ⟨fun i hi => ?_, hpending, hkernel, hcursor⟩
    have hu := hused i
    have hm := hmodules i
    rw [ModuleLoader.modify_of_ne _ hi] at hu hm
    exact ⟨hu, hm⟩
  · rintro ⟨hothers, hpending, hkernel, hcursor⟩
    refine ⟨fun i => ?_, fun i hi => ?_, hpending, hkernel, hcursor⟩
    · by_cases his : i = slot
      · rw [his, ModuleLoader.modify_self, hfree]
        rfl
      · rw [ModuleLoader.modify_of_ne _ his]
        exact (hothers i his).1
    · have his : i ≠ slot := fun h => by simp [h, hfree] at hi
      rw [ModuleLoader.modify_of_ne _ his]
      exact (hothers i his).2 hi

/-- The call fails without a trace exactly when the image was not looked at, or its load fails so. -/
theorem loadNewModule_sameRecords_iff {path : CString} {kind : NsModuleKind} {file : ModuleFile}
    (h : (loadNewModule pool path kind file s).result = .error s') :
    s.SameRecords s' ↔ (path ≠ [] → file.Accepted → s.allocModuleSlot ≠ none →
      file.image.HeaderAccepted → file.image.Traceless pool s) := by
  rcases loadNewModule_cases pool path kind file s with ⟨hrefused, hres⟩ |
    ⟨slot, -, hres⟩ | ⟨slot, hpath, haccepted, -, halloc, hres⟩
  · rw [hres] at h
    cases h
    refine iff_of_true ⟨fun _ => rfl, fun _ _ => rfl, rfl, rfl, rfl⟩ fun hpath hfile hslot => ?_
    rcases hrefused with h | h | h
    · exact absurd h hpath
    · exact absurd hfile h
    · exact absurd h hslot
  · rw [hres] at h
    cases h
  have hfree := not_used_of_alloc halloc
  simp only [ne_eq, hpath, not_false_eq_true, haccepted, halloc, reduceCtorEq, forall_const]
  rw [← traceless_starting hfree kind path]
  rw [hres] at h
  cases hload : (loadObjectFromImage pool slot file.image (s.starting slot kind path)).result with
  | ok s₁ =>
    rw [hload] at h
    cases h
  | error s₁ =>
    rw [hload] at h
    obtain rfl : (s₁.modify slot fun _ => .zero) = s' := Except.error.inj h
    rw [sameRecords_clear_iff hfree]
    have hunbound : (s.starting slot kind path).Unbound slot := by
      constructor <;> rw [ModuleLoader.starting, ModuleLoader.modify_self] <;> rfl
    have hstart : s.Beside slot (s.starting slot kind path) := s.beside_modify _
    rcases loadObjectFromImage_error hunbound hload with ⟨hcond, hbeside⟩ | ⟨hcond, hchanged⟩
    · have hall := hstart.trans hbeside
      refine iff_of_true ⟨fun i hi => ?_, hall.pending, hall.kernelExports, hall.cursor⟩ hcond
      rw [hall.others i hi]
      exact ⟨rfl, fun _ => rfl⟩
    · refine iff_of_false (fun hsame => ?_) hcond
      rcases hchanged with hcursor | hgrown
      · exact hcursor hsame.2.2.2
      · rcases hgrown.of_beside hstart with ⟨m, hm, hused, hlt⟩ | ⟨i, hnone, hsome⟩
        · rw [(hsame.1 m hm).2 hused] at hlt
          exact lt_irrefl _ hlt
        · rw [hsame.2.1] at hsome
          exact hsome hnone

/-- `definesFoo` is loaded. -/
def fooLoader : ModuleLoader :=
  (moduleStep lowPool newLoader (.dlopen 0 [0x61] (.ofBytes (definesFoo 2)))).1

/-- A link to a section that there is not is refused before anything was done. -/
theorem loadNewModule_sameRecords_badLink :
    ∃ s', (loadNewModule lowPool [0x62] .library
        (.ofBytes (objectBytes [] [nullSection, ⟨9, 0, 0, 8, 7, 7, 4, 8⟩])) fooLoader).result =
      .error s' ∧ fooLoader.SameRecords s' := by
  have hfails : (loadNewModule lowPool [0x62] .library
      (.ofBytes (objectBytes [] [nullSection, ⟨9, 0, 0, 8, 7, 7, 4, 8⟩])) fooLoader).result.isOk =
      false := by decide +kernel
  cases hres : (loadNewModule lowPool [0x62] .library
      (.ofBytes (objectBytes [] [nullSection, ⟨9, 0, 0, 8, 7, 7, 4, 8⟩])) fooLoader).result with
  | ok r =>
    rw [hres] at hfails
    cases hfails
  | error s' =>
    refine ⟨s', rfl, (loadNewModule_sameRecords_iff hres).2 fun _ _ _ _ => ?_⟩
    decide +kernel

/-- `foo` is bound to a module, which is counted; then a relocation has a type that is not known. -/
theorem loadNewModule_keeps_count :
    ¬ ∀ (pool : ModulePool) (path : CString) (kind : NsModuleKind) (file : ModuleFile)
      (s s' : ModuleLoader), (loadNewModule pool path kind file s).result = .error s' →
      s.SameRecords s' := by
  intro h
  have hfails : (loadNewModule lowPool [0x62] .library (.ofBytes (usesFoo [(1, 0), (99, 0)]))
      fooLoader).result.isOk = false := by decide +kernel
  have hcount : ((outcome (loadNewModule lowPool [0x62] .library
      (.ofBytes (usesFoo [(1, 0), (99, 0)])) fooLoader).result).1.modules 0).refCount = 2 := by
    decide +kernel
  cases hres : (loadNewModule lowPool [0x62] .library (.ofBytes (usesFoo [(1, 0), (99, 0)]))
      fooLoader).result with
  | ok r =>
    rw [hres] at hfails
    cases hfails
  | error s' =>
    rw [hres] at hcount
    have hsame := (h _ _ _ _ _ _ hres).modules 0 (by decide +kernel)
    change (s'.modules 0).refCount = 2 at hcount
    rw [hsame] at hcount
    exact absurd hcount (by decide +kernel)

end

end NeuroSpark.Modules
