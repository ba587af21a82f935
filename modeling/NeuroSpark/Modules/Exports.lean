import NeuroSpark.Modules.LoadSteps

/-!
# What a module exports

The loader remembers the first symbol table of each kind among the sections that it loads, and
exports the symbols of one of these. The symbol table of an `ET_REL` file is not loaded as a rule:
it is used for the relocations, but it is not among these, and nothing is exported.
-/

namespace NeuroSpark.Modules

open Logged Word

/-- The address that `module_dlsym` gives, 0 for none. -/
def exportAddr (exports : List NsExport) (name : CString) : Nat :=
  ((findExport exports name).map NsExport.addr).getD 0

namespace ModuleImage

variable (image : ModuleImage)

/-- The places of the sections of an image that has room in the pool. -/
def sectionTable (pool : ModulePool) (cursor : Nat) : SectionTable :=
  match layout pool image cursor with
  | .ok l => l.2
  | .error _ => .empty

/-- The first loaded section of a type. -/
def firstLoaded (shType : Nat) : Option Nat :=
  (List.range image.eShnum).find? fun i => (image.shdr i).Loads ∧ (image.shdr i).shType = shType

/-- The table that is exported: a loaded `SHT_SYMTAB`, or else a loaded `SHT_DYNSYM`. -/
def exportTable : Option Nat :=
  if image.firstLoaded shtSymtab = none then image.firstLoaded shtDynsym
  else image.firstLoaded shtSymtab

/-- The first symbol table, loaded or not. -/
def firstTable : Option Nat := (List.range image.eShnum).find? fun i => (image.shdr i).IsSymbols

/-- The global and weak symbols that a table defines in loaded sections, with their addresses. -/
def symbols (t : SectionTable) (i : Nat) : List (CString × Nat) :=
  (List.range (image.shdr i).symCount).filterMap
    (image.exported t (image.shdr i) (image.shdr (image.shdr i).shLink))

def exports (t : SectionTable) : List NsExport :=
  (image.exportTable.map fun i => tableExports image t i []).getD []

end ModuleImage

section

variable {pool : ModulePool} {slot : Fin 12} {image : ModuleImage} {s s' : ModuleLoader}
  {file : ModuleFile} {t : SectionTable} {path : CString}

lemma remember_or (p : Prop) [Decidable p] (first : Option Nat) (i : Nat) (rest : Option Nat) :
    (if p ∧ first = none then some i else first).or rest =
      first.or (if p then some i else rest) := by
  cases first with
  | none => by_cases hp : p <;> simp [hp]
  | some j => simp

/-- The loop over the sections remembers the first table of each kind. -/
lemma exportIdx_of_foldlM {l : List Nat} {c c' : Nat} {t t' : SectionTable}
    (h : l.foldlM (layoutSection pool image) (c, t) = .ok (c', t')) :
    t'.symtabIdx = t.symtabIdx.or (l.find? fun i =>
        (image.shdr i).Loads ∧ (image.shdr i).shType = shtSymtab) ∧
      t'.dynsymIdx = t.dynsymIdx.or (l.find? fun i =>
        (image.shdr i).Loads ∧ (image.shdr i).shType = shtDynsym) := by
  induction l generalizing c t with
  | nil =>
    cases h
    simp
  | cons i l ih =>
    rw [List.foldlM_cons] at h
    cases hround : layoutSection pool image (c, t) i with
    | error e =>
      rw [hround] at h
      cases h
    | ok l₁ =>
      rw [hround] at h
      obtain ⟨hsym, hdyn⟩ := ih (c := l₁.1) (t := l₁.2) h
      rw [hsym, hdyn, List.find?_cons, List.find?_cons]
      unfold layoutSection at hround
      by_cases hout : (image.shdr i).Outside image.size ∧ (image.shdr i).shType ≠ shtNobits
      · simp [if_pos hout] at hround
      by_cases hloads : ¬ (image.shdr i).Loads
      · simp only [if_neg hout, if_pos hloads, Except.ok.injEq] at hround
        subst hround
        simp [hloads]
      simp only [if_neg hout, if_neg hloads] at hround
      rw [not_not] at hloads
      cases hroom : poolAlloc c (image.shdr i).shSize (sectionAlign (image.shdr i)) with
      | none => simp [hroom] at hround
      | some room =>
        simp only [hroom, Except.ok.injEq] at hround
        subst hround
        simp only [hloads, true_and, SectionTable.place, remember_or]
        constructor
        · by_cases htype : (image.shdr i).shType = shtSymtab <;> simp [htype]
        · by_cases htype : (image.shdr i).shType = shtDynsym <;> simp [htype]

lemma exportIdx_sectionTable {c : Nat} {cursor : Nat}
    (h : layout pool image cursor = .ok (c, t)) : t.exportIdx = image.exportTable := by
  obtain ⟨hsym, hdyn⟩ := exportIdx_of_foldlM h
  rw [SectionTable.exportIdx, hsym, hdyn]
  rfl

/-! ### Exporting -/

/-- Entries that a table of exports has no entries for yet, with short names that differ, and room
for all of them. -/
structure Fits (exports : List NsExport) (es : List (CString × Nat)) : Prop where
  few : exports.length + es.length ≤ maxExports
  nodup : (es.map Prod.fst).Nodup
  short : ∀ e ∈ es, e.1 ≠ [] ∧ 0 ∉ e.1 ∧ e.1.length < 48
  fresh : ∀ e ∈ es, ∀ x ∈ exports, x.name.chars ≠ e.1

lemma SymbolName.copy_chars {text : CString} (hzero : 0 ∉ text) (hshort : text.length < 48) :
    (SymbolName.copy text).chars = text := by
  have hself : cString text = text :=
    List.takeWhile_eq_self_iff.2 fun c hc => by
      have : c ≠ 0 := fun h => hzero (h ▸ hc)
      simpa using this
  change (cString text).take 47 = text
  rw [hself, List.take_of_length_le (by omega)]

/-- Every entry is added, but for those with the address 0. -/
lemma foldl_moduleAddExport {es : List (CString × Nat)} {exports : List NsExport}
    (h : Fits exports es) :
    es.foldl (fun exports e => moduleAddExport exports e.1 e.2) exports =
      exports ++ (es.filter fun e => e.2 ≠ 0).map fun e => ⟨SymbolName.copy e.1, e.2⟩ := by
  induction es generalizing exports with
  | nil => simp
  | cons e es ih =>
    obtain ⟨hne, hzero, hshort⟩ := h.short e List.mem_cons_self
    have hfresh := h.fresh e List.mem_cons_self
    have hfew := h.few
    rw [List.length_cons] at hfew
    obtain ⟨hhead, hnodup⟩ := List.nodup_cons.1 h.nodup
    rw [List.foldl_cons]
    by_cases haddr : e.2 = 0
    · have hsame : moduleAddExport exports e.1 e.2 = exports := by
        rw [moduleAddExport, putExport, if_pos (Or.inr (Or.inl haddr))]
      rw [hsame, ih ⟨by omega, hnodup, fun e' he' => h.short e' (List.mem_cons_of_mem _ he'),
        fun e' he' => h.fresh e' (List.mem_cons_of_mem _ he')⟩,
        List.filter_cons_of_neg (by simpa using haddr)]
    have hnew : moduleAddExport exports e.1 e.2 = exports ++ [⟨SymbolName.copy e.1, e.2⟩] := by
      have hfind : exports.findIdx? (fun x => x.name.chars = e.1) = none :=
        List.findIdx?_eq_none_iff.2 fun x hx => by simpa using hfresh x hx
      rw [moduleAddExport, putExport, if_neg (by simp [hne, haddr]; omega), hfind]
    rw [hnew, ih ⟨?_, hnodup, fun e' he' => h.short e' (List.mem_cons_of_mem _ he'), ?_⟩,
      List.filter_cons_of_pos (by simpa using haddr), List.map_cons, List.append_assoc]
    · rfl
    · rw [List.length_append, List.length_singleton]
      omega
    · intro e' he' x hx
      rcases List.mem_append.1 hx with hx | hx
      · exact h.fresh e' (List.mem_cons_of_mem _ he') x hx
      · obtain rfl := List.mem_singleton.1 hx
        rw [SymbolName.copy_chars hzero hshort]
        intro heq
        exact hhead (heq ▸ List.mem_map_of_mem he')

lemma exportAddr_added {es : List (CString × Nat)} (h : Fits [] es) {e : CString × Nat}
    (he : e ∈ es) :
    exportAddr ((es.filter fun e => e.2 ≠ 0).map fun e => ⟨SymbolName.copy e.1, e.2⟩) e.1 =
      e.2 := by
  have hchars : ∀ e' ∈ es, (SymbolName.copy e'.1).chars = e'.1 := fun e' he' =>
    SymbolName.copy_chars (h.short e' he').2.1 (h.short e' he').2.2
  unfold exportAddr findExport
  cases hfind : ((es.filter fun e => e.2 ≠ 0).map fun e =>
      (⟨SymbolName.copy e.1, e.2⟩ : NsExport)).find? (fun x => x.name.chars = e.1) with
  | none =>
    by_contra hne
    have hmem : (⟨SymbolName.copy e.1, e.2⟩ : NsExport) ∈ (es.filter fun e => e.2 ≠ 0).map
        fun e => ⟨SymbolName.copy e.1, e.2⟩ :=
      List.mem_map_of_mem (List.mem_filter.2 ⟨he, by simpa using Ne.symm hne⟩)
    have hnot := List.find?_eq_none.1 hfind _ hmem
    simp [hchars e he] at hnot
  | some x =>
    have hname : x.name.chars = e.1 := by simpa using List.find?_some hfind
    obtain ⟨e', he', rfl⟩ := List.mem_map.1 (List.mem_of_find?_eq_some hfind)
    have hmem := (List.mem_filter.1 he').1
    rw [hchars e' hmem] at hname
    rw [List.inj_on_of_nodup_map h.nodup hmem he hname]
    rfl

lemma foldl_exportStep (t : SectionTable) (i : Nat) (l : List Nat) (exports : List NsExport) :
    l.foldl (exportStep image t (image.shdr i) (image.shdr (image.shdr i).shLink)) exports =
      (l.filterMap (image.exported t (image.shdr i) (image.shdr (image.shdr i).shLink))).foldl
        (fun exports e => moduleAddExport exports e.1 e.2) exports := by
  induction l generalizing exports with
  | nil => rfl
  | cons k l ih =>
    rw [List.foldl_cons, ih, List.filterMap_cons, exportStep]
    cases image.exported t (image.shdr i) (image.shdr (image.shdr i).shLink) k with
    | none => rfl
    | some e => rfl

/-- The symbols that a module should export can be exported: they differ, their names are short,
and there is room for all of them. -/
structure Exportable (es : List (CString × Nat)) : Prop where
  few : es.length ≤ maxExports
  nodup : (es.map Prod.fst).Nodup
  short : ∀ e ∈ es, e.1.length < 48

lemma exportAddr_tableExports {i : Nat} (h : Exportable (image.symbols t i)) {e : CString × Nat}
    (he : e ∈ image.symbols t i) :
    exportAddr (tableExports image t i []) e.1 = e.2 := by
  have hfits : Fits [] (image.symbols t i) := by
    refine ⟨by simpa using h.few, h.nodup, fun e he => ?_, fun e he x hx => by cases hx⟩
    obtain ⟨k, -, hk⟩ := List.mem_filterMap.1 he
    obtain ⟨hname, hne, -⟩ := exported_eq_some hk
    refine ⟨hne, ?_, h.short e he⟩
    rw [hname]
    exact image.text_terminated _
  rw [tableExports, foldl_exportStep, ← ModuleImage.symbols, foldl_moduleAddExport hfits]
  exact exportAddr_added hfits he

/-! ### The module after a load -/

lemma ModuleLoader.moduleDlsym_snd (hused : (s.modules slot).used = true) {name : CString}
    (hname : name ≠ []) :
    (s.moduleDlsym (handleOf slot) name).2 = exportAddr (s.modules slot).exports name := by
  unfold moduleDlsym exportAddr
  simp only [findModuleSlotByHandle_handleOf hused, if_neg hname]
  cases findExport (s.modules slot).exports name with
  | none => rfl
  | some e => rfl

lemma ModuleLoader.moduleDlsym_modules (handle : Int) (name : CString) :
    (s.moduleDlsym handle name).1.modules = s.modules := by
  obtain ⟨dlerror, h⟩ := s.moduleDlsym_fst handle name
  rw [h]

lemma ModuleLoader.withEntryPoints_own (hused : (s.modules slot).used = true) :
    (s.withEntryPoints slot).modules slot =
      { s.modules slot with
        initAddr := exportAddr (s.modules slot).exports nsModuleInit
        finiAddr := exportAddr (s.modules slot).exports nsModuleFini } := by
  simp only [ModuleLoader.withEntryPoints]
  generalize hinit : s.moduleDlsym (handleOf slot) nsModuleInit = init
  generalize hs₁ : (init.1.modify slot fun m => { m with initAddr := init.2 }) = s₁
  have hown : s₁.modules slot =
      { s.modules slot with initAddr := exportAddr (s.modules slot).exports nsModuleInit } := by
    rw [← hs₁, modify_self, ← hinit, moduleDlsym_modules, moduleDlsym_snd hused (by decide)]
  have hused₁ : (s₁.modules slot).used = true := by rw [hown]; exact hused
  have hfini : (s₁.moduleDlsym (handleOf slot) nsModuleFini).2 =
      exportAddr (s.modules slot).exports nsModuleFini := by
    rw [moduleDlsym_snd hused₁ (by decide), hown]
  rw [modify_self, moduleDlsym_modules, hfini, hown]

/-- What a load that succeeds makes of the module. -/
lemma linkModule_own (hused : (s.modules slot).used = true)
    (hexports : (s.modules slot).exports = []) (h : (linkModule slot image t s).result = .ok s') :
    ∃ refCount deps, s'.modules slot =
      { s.modules slot with
        refCount := refCount
        deps := deps
        exports := (t.exportIdx.map fun i => tableExports image t i []).getD []
        initAddr := exportAddr ((t.exportIdx.map fun i => tableExports image t i []).getD [])
          nsModuleInit
        finiAddr := exportAddr ((t.exportIdx.map fun i => tableExports image t i []).getD [])
          nsModuleFini } := by
  obtain ⟨s₁, hrelocs, h⟩ := of_result_bind h
  obtain ⟨s₂, hexport, h⟩ := of_result_bind h
  have hrelocated := relocations_relocated slot image t (List.range image.eShnum) s
  rw [hrelocs] at hrelocated
  obtain ⟨refCount, deps, hown₁⟩ := hrelocated.own
  have hnil : (s₁.modules slot).exports = [] := by rw [ends_ok] at hown₁; rw [hown₁]; exact hexports
  have hown₂ : s₂.modules slot =
      { s₁.modules slot with
        exports := (t.exportIdx.map fun i => tableExports image t i []).getD [] } := by
    rcases exportSymbols_result slot image t s₁ with
      ⟨hidx, hres⟩ | ⟨i, hidx, ⟨-, hres⟩ | ⟨-, hres⟩⟩
    · rw [hexport] at hres
      cases hres
      rw [hidx, Option.map_none, Option.getD_none, ← hnil]
    · rw [hexport] at hres
      cases hres
    · rw [hexport] at hres
      obtain rfl := Except.ok.inj hres
      rw [ModuleLoader.modify_self, hidx, hnil]
      rfl
  have hused₂ : (s₂.modules slot).used = true := by
    rw [ends_ok] at hown₁
    rw [hown₂, hown₁]
    exact hused
  refine ⟨refCount, deps, ?_⟩
  have hs' : s'.modules slot = (s₂.withEntryPoints slot).modules slot := by
    obtain ⟨dlerror, hres | hres⟩ := findEntryPoints_result slot image t s₂
    · rw [h] at hres
      rw [Except.ok.inj hres]
    · rw [h] at hres
      cases hres
  rw [ends_ok] at hown₁
  rw [hs', ModuleLoader.withEntryPoints_own hused₂, hown₂, hown₁]

lemma loadNewModule_own {kind : NsModuleKind} {handle : Int}
    (hnew : s.findModuleSlotByPath path kind = none)
    (h : (loadNewModule pool path kind file s).result = .ok (s', handle)) :
    ∃ slot, handle = handleOf slot ∧ (s'.modules slot).used = true ∧
      (s'.modules slot).initCalled = false ∧
      (s'.modules slot).exports =
        file.image.exports (file.image.sectionTable pool s.poolCursor) ∧
      (s'.modules slot).initAddr = exportAddr (s'.modules slot).exports nsModuleInit ∧
      (s'.modules slot).finiAddr = exportAddr (s'.modules slot).exports nsModuleFini := by
  rcases loadNewModule_cases pool path kind file s with ⟨-, hres⟩ | ⟨slot, hfind, -⟩ |
    ⟨slot, -, -, -, -, hres⟩
  · rw [hres] at h
    cases h
  · rw [hnew] at hfind
    cases hfind
  rw [hres] at h
  rcases loadObjectFromImage_cases pool slot file.image (s.starting slot kind path) with
    ⟨-, hload⟩ | ⟨-, cursor, s₁, -, -, hload⟩ | ⟨-, cursor, t, s₁, hlayout, hplaced, hload⟩
  · rw [hload] at h
    cases h
  · rw [hload] at h
    cases h
  rw [hload] at h
  cases hlink : (linkModule slot file.image t s₁).result with
  | error s₂ =>
    rw [hlink] at h
    cases h
  | ok s₂ =>
    rw [hlink] at h
    obtain ⟨rfl, rfl⟩ := Prod.mk.inj (Except.ok.inj h)
    have hidx := exportIdx_sectionTable hlayout
    have htable : file.image.sectionTable pool s.poolCursor = t := by
      rw [ModuleImage.sectionTable, show layout pool file.image s.poolCursor = _ from hlayout]
    obtain ⟨base, hown⟩ := hplaced.own
    have hfresh : (s.starting slot kind path).modules slot = .fresh kind path :=
      s.modify_self _ _
    rw [hfresh] at hown
    obtain ⟨refCount, deps, hown₂⟩ := linkModule_own (s := s₁) (by rw [hown]; rfl)
      (by rw [hown]; rfl) hlink
    refine ⟨slot, rfl, ?_⟩
    rw [hown₂, hown, htable, ModuleImage.exports, hidx]
    exact ⟨rfl, rfl, rfl, rfl, rfl⟩

lemma called_mem_moduleInsmod
    (h : (loadNewModule pool path .kernel file s).result = .ok (s', handleOf slot))
    (hused : (s'.modules slot).used = true) (hcalled : (s'.modules slot).initCalled = false)
    (haddr : (s'.modules slot).initAddr ≠ 0) (initRc : Int) :
    .called (s'.modules slot).initAddr ∈ (moduleInsmod pool path file initRc s).log := by
  unfold moduleInsmod
  rw [(bind_of_ok (result_attempt _) _).1, h]
  refine List.mem_append_right _ ?_
  simp only [ModuleLoader.findModuleSlotByHandle_handleOf hused]
  refine mem_log_bind ?_ _
  unfold initModule
  simp only [ModuleLoader.modify_self, hcalled, Bool.false_eq_true, if_false, if_neg haddr]
  exact List.mem_cons_self

/-- `module_rmmod` drops the last reference to a module that nothing depends on. -/
structure ModuleLoader.RmmodUnloads (s : ModuleLoader) (text : CString) (slot : Fin 12) : Prop where
  text_ne : text ≠ []
  found : s.rmmodSlot text = some slot
  kind : (s.modules slot).kind = .kernel
  kernelRefs : 0 < (s.modules slot).kernelRefs
  last : (s.modules slot).refCount ≤ 1
  free : ¬ s.moduleHasDependents slot

lemma called_mem_releaseModuleSlot (fuel : Nat) (hused : (s.modules slot).used = true)
    (hlast : (s.modules slot).refCount ≤ 0) (hfree : ¬ s.moduleHasDependents slot)
    (haddr : (s.modules slot).finiAddr ≠ 0) :
    .called (s.modules slot).finiAddr ∈ (releaseModuleSlot (fuel + 1) slot true s).log := by
  rw [releaseModuleSlot, if_neg (by simp [hused]), if_neg (not_lt.2 hlast), if_neg hfree,
    if_pos ⟨rfl, haddr⟩, (tell_bind _ _).1]
  exact List.mem_cons_self

lemma called_mem_moduleRmmod {text : CString} (h : s.RmmodUnloads text slot)
    (haddr : (s.modules slot).finiAddr ≠ 0) :
    .called (s.modules slot).finiAddr ∈ (moduleRmmod text s).log := by
  unfold moduleRmmod
  simp only [if_neg h.text_ne, h.found, ne_eq, h.kind, not_true_eq_false, if_false,
    if_neg (not_le.2 h.kernelRefs), if_neg h.free]
  refine mem_log_bind ?_ _
  have hlast := h.last
  generalize hs₁ : (s.modify slot fun m => { m with kernelRefs := m.kernelRefs - 1 }.unref) = s₁
  have hown : s₁.modules slot = { s.modules slot with
      kernelRefs := (s.modules slot).kernelRefs - 1 }.unref := by
    rw [← hs₁, ModuleLoader.modify_self]
  have hfini : (s₁.modules slot).finiAddr = (s.modules slot).finiAddr := by rw [hown]; rfl
  rw [← hfini] at haddr ⊢
  refine called_mem_releaseModuleSlot 12 ?_ ?_ ?_ haddr
  · rw [hown]
    exact s.used_of_rmmodSlot h.found
  · rw [hown]
    simp only [NsLoadedObject.unref]
    split_ifs <;> omega
  · rw [← hs₁, s.moduleHasDependents_modify]
    exact h.free

/-! ### All symbols -/

/-- The symbols of a table can all be looked up after a load, and the entry points among them are
called when a kernel module is started and unloaded. -/
structure OffersSymbols (pool : ModulePool) (path : CString) (kind : NsModuleKind)
    (file : ModuleFile) (s s' : ModuleLoader) (handle : Int) (es : List (CString × Nat)) :
    Prop where
  dlsym : ∀ e ∈ es, (s'.moduleDlsym handle e.1).2 = e.2
  init : ∀ addr ≠ 0, (nsModuleInit, addr) ∈ es → kind = .kernel → ∀ initRc,
    .called addr ∈ (moduleInsmod pool path file initRc s).log
  fini : ∀ addr ≠ 0, (nsModuleFini, addr) ∈ es → ∀ slot, handleOf slot = handle →
    ∀ s₁ : ModuleLoader, (s₁.modules slot).finiAddr = (s'.modules slot).finiAddr →
    ∀ text, s₁.RmmodUnloads text slot → .called addr ∈ (moduleRmmod text s₁).log

/-- A module offers the symbols of one of its tables exactly when this is the table that it exports,
or the exported one gives the same addresses. -/
theorem loadNewModule_offers_iff {path : CString} {kind : NsModuleKind} {file : ModuleFile}
    {handle : Int} (hnew : s.findModuleSlotByPath path kind = none)
    (h : (loadNewModule pool path kind file s).result = .ok (s', handle)) (i : Nat)
    (hsyms : Exportable (file.image.symbols (file.image.sectionTable pool s.poolCursor) i)) :
    OffersSymbols pool path kind file s s' handle
        (file.image.symbols (file.image.sectionTable pool s.poolCursor) i) ↔
      file.image.exportTable = some i ∨
        ∀ e ∈ file.image.symbols (file.image.sectionTable pool s.poolCursor) i,
          exportAddr (file.image.exports (file.image.sectionTable pool s.poolCursor)) e.1 =
            e.2 := by
  obtain ⟨slot, rfl, hused, hcalled, hexports, hinit, hfini⟩ := loadNewModule_own hnew h
  generalize ht : file.image.sectionTable pool s.poolCursor = t at hsyms hexports ⊢
  have hne : ∀ e ∈ file.image.symbols t i, e.1 ≠ [] := fun e he => by
    obtain ⟨k, -, hk⟩ := List.mem_filterMap.1 he
    exact (exported_eq_some hk).2.1
  constructor
  · intro hoffers
    refine Or.inr fun e he => ?_
    have hdlsym := hoffers.dlsym e he
    rwa [ModuleLoader.moduleDlsym_snd hused (hne e he), hexports] at hdlsym
  · intro hcond
    have haddr : ∀ e ∈ file.image.symbols t i, exportAddr (s'.modules slot).exports e.1 = e.2 := by
      intro e he
      rw [hexports]
      rcases hcond with htable | hsame
      · rw [ModuleImage.exports, htable]
        exact exportAddr_tableExports hsyms he
      · exact hsame e he
    refine ⟨fun e he => ?_, fun addr hne he hkind initRc => ?_,
      fun addr hne he j hj s₁ hs₁ text ht => ?_⟩
    · rw [ModuleLoader.moduleDlsym_snd hused (hne e he)]
      exact haddr e he
    · subst hkind
      have hstart : (s'.modules slot).initAddr = addr := hinit.trans (haddr _ he)
      rw [← hstart]
      exact called_mem_moduleInsmod h hused hcalled (by rw [hstart]; exact hne) initRc
    · rw [handleOf_inj hj] at hs₁ ht
      have hstop : (s₁.modules slot).finiAddr = addr := hs₁.trans (hfini.trans (haddr _ he))
      rw [← hstop]
      exact called_mem_moduleRmmod ht (by rw [hstop]; exact hne)

/-- A loaded symbol table is exported. -/
theorem loadNewModule_offers_foo : ∃ s', (loadNewModule lowPool [0x61] .library
      (.ofBytes (definesFoo 2)) newLoader).result = .ok (s', 0x4000) ∧
    OffersSymbols lowPool [0x61] .library (.ofBytes (definesFoo 2)) newLoader s' 0x4000
      ((ModuleFile.ofBytes (definesFoo 2)).image.symbols
        ((ModuleFile.ofBytes (definesFoo 2)).image.sectionTable lowPool 0) 3) := by
  have hloads : (loadNewModule lowPool [0x61] .library (.ofBytes (definesFoo 2))
      newLoader).result.isOk = true := by decide +kernel
  have hhandle : (outcome (loadNewModule lowPool [0x61] .library (.ofBytes (definesFoo 2))
      newLoader).result).2 = 0x4000 := by decide +kernel
  cases hres : (loadNewModule lowPool [0x61] .library (.ofBytes (definesFoo 2))
      newLoader).result with
  | error s' =>
    rw [hres] at hloads
    cases hloads
  | ok r =>
    rw [hres] at hhandle
    obtain ⟨s', handle⟩ := r
    obtain rfl : handle = 0x4000 := hhandle
    refine ⟨s', rfl, (loadNewModule_offers_iff (by decide +kernel) hres 3 ⟨?_, ?_, ?_⟩).2
      (Or.inl ?_)⟩
    · decide +kernel
    · decide +kernel
    · decide +kernel
    · decide +kernel

/-- A symbol table without `SHF_ALLOC` is not exported: `foo` is defined at 4098, and not found. -/
theorem loadNewModule_hides_foo :
    ¬ ∀ (pool : ModulePool) (path : CString) (kind : NsModuleKind) (file : ModuleFile)
      (s s' : ModuleLoader) (handle : Int) (i : Nat), s.findModuleSlotByPath path kind = none →
      (loadNewModule pool path kind file s).result = .ok (s', handle) →
      file.image.firstTable = some i →
      Exportable (file.image.symbols (file.image.sectionTable pool s.poolCursor) i) →
      OffersSymbols pool path kind file s s' handle
        (file.image.symbols (file.image.sectionTable pool s.poolCursor) i) := by
  intro h
  have hloads : (loadNewModule lowPool [0x61] .library (.ofBytes (definesFoo 0))
      newLoader).result.isOk = true := by decide +kernel
  have hhandle : (outcome (loadNewModule lowPool [0x61] .library (.ofBytes (definesFoo 0))
      newLoader).result).2 = 0x4000 := by decide +kernel
  have hdlsym : ((outcome (loadNewModule lowPool [0x61] .library (.ofBytes (definesFoo 0))
      newLoader).result).1.moduleDlsym 0x4000 [0x66, 0x6F, 0x6F]).2 = 0 := by decide +kernel
  cases hres : (loadNewModule lowPool [0x61] .library (.ofBytes (definesFoo 0))
      newLoader).result with
  | error s' =>
    rw [hres] at hloads
    cases hloads
  | ok r =>
    rw [hres] at hhandle hdlsym
    obtain ⟨s', handle⟩ := r
    obtain rfl : handle = 0x4000 := hhandle
    have hoffers := (h _ _ _ _ _ _ _ 3 (by decide +kernel) hres (by decide +kernel)
      ⟨by decide +kernel, by decide +kernel, by decide +kernel⟩).dlsym
      ([0x66, 0x6F, 0x6F], 4098) (by decide +kernel)
    exact absurd (hdlsym.symm.trans hoffers) (by decide)

end

end NeuroSpark.Modules
