import NeuroSpark.Modules.Calls

/-!
# What loading does to the tables

The places of the sections are decided by the section headers and the cursor of the pool alone. Then
each relocation has one of four fates: it is refused and the load fails, it is applied and changes
nothing but module memory, it binds its symbol to a module, which is counted, or it is queued until
the symbol is there.
-/

namespace NeuroSpark.Modules

open Logged Word

section

variable (pool : ModulePool) (slot : Fin 12) (image : ModuleImage)

/-! ### The places of sections -/

/-- What the loop over the sections does to the cursor and its local variables. -/
def layoutSection (l : Nat × SectionTable) (i : Nat) : Except Nat (Nat × SectionTable) :=
  let sec := image.shdr i
  if sec.Outside image.size ∧ sec.shType ≠ shtNobits then .error l.1
  else if ¬ sec.Loads then .ok l
  else
    match poolAlloc l.1 sec.shSize (sectionAlign sec) with
    | none => .error l.1
    | some (off, cursor) => .ok (cursor, l.2.place i sec.shType (pool.base + off))

/-- The cursor behind the sections and their places, or the cursor where the loop gives up. -/
def layout (cursor : Nat) : Except Nat (Nat × SectionTable) :=
  (List.range image.eShnum).foldlM (layoutSection pool image) (cursor, SectionTable.empty)

/-- Nothing changed but the module in the slot, module memory and messages. -/
structure ModuleLoader.Beside (slot : Fin 12) (s s' : ModuleLoader) : Prop where
  others : ∀ i ≠ slot, s'.modules i = s.modules i
  kernelExports : s'.kernelExports = s.kernelExports
  pending : s'.pendingRelocs = s.pendingRelocs
  cursor : s'.poolCursor = s.poolCursor

variable {pool slot image} {s s' s'' : ModuleLoader}

lemma ModuleLoader.Beside.refl (s : ModuleLoader) : s.Beside slot s :=
  ⟨fun _ _ => rfl, rfl, rfl, rfl⟩

lemma ModuleLoader.Beside.trans (h : s.Beside slot s') (h' : s'.Beside slot s'') :
    s.Beside slot s'' :=
  ⟨fun i hi => (h'.others i hi).trans (h.others i hi), h'.kernelExports.trans h.kernelExports,
    h'.pending.trans h.pending, h'.cursor.trans h.cursor⟩

lemma ModuleLoader.beside_modify (s : ModuleLoader) (f : NsLoadedObject → NsLoadedObject) :
    s.Beside slot (s.modify slot f) :=
  ⟨fun _ hi => Function.update_of_ne hi .., rfl, rfl, rfl⟩

/-- Placing sections moves the cursor, and changes the image base of the module. -/
structure ModuleLoader.Placed (slot : Fin 12) (s s' : ModuleLoader) (cursor : Nat) : Prop where
  beside : ModuleLoader.Beside slot { s with poolCursor := cursor } s'
  own : ∃ base, s'.modules slot = { s.modules slot with imageBase := base }

lemma ModuleLoader.Placed.refl (s : ModuleLoader) : s.Placed slot s s.poolCursor :=
  ⟨.refl s, _, rfl⟩

lemma ModuleLoader.Placed.trans {c c' : Nat} (h : s.Placed slot s' c) (h' : s'.Placed slot s'' c') :
    s.Placed slot s'' c' := by
  obtain ⟨base, hbase⟩ := h.own
  obtain ⟨base', hbase'⟩ := h'.own
  refine ⟨?_, base', by rw [hbase', hbase]⟩
  exact ⟨fun i hi => (h'.beside.others i hi).trans (h.beside.others i hi),
    h'.beside.kernelExports.trans h.beside.kernelExports,
    h'.beside.pending.trans h.beside.pending, h'.beside.cursor⟩

lemma ModuleLoader.placed_placeSection (s : ModuleLoader) (sec : Elf32Shdr) (addr cursor : Nat) :
    s.Placed slot (s.placeSection slot image sec addr cursor) cursor where
  beside := ⟨fun _ hi => Function.update_of_ne hi .., rfl, rfl, rfl⟩
  own := ⟨_, Function.update_self ..⟩

/-- The outcome of the loop, as the layout says it. -/
def FollowsLayout (slot : Fin 12) (s : ModuleLoader) :
    Except Nat (Nat × SectionTable) → Except ModuleLoader (ModuleLoader × SectionTable) → Prop
  | .ok l, res => ∃ s', res = .ok (s', l.2) ∧ s.Placed slot s' l.1
  | .error c, res => ∃ s', res = .error s' ∧ s.Placed slot s' c

variable (pool slot image) in
lemma loadSection_follows (s : ModuleLoader) (t : SectionTable) (i : Nat) :
    FollowsLayout slot s (layoutSection pool image (s.poolCursor, t) i)
      (loadSection pool slot image (s, t) i).result := by
  unfold layoutSection loadSection
  rw [result_bind_ok (a := image.shdr i) rfl]
  by_cases hout : (image.shdr i).Outside image.size ∧ (image.shdr i).shType ≠ shtNobits
  · simp only [if_pos hout]
    exact ⟨s, rfl, .refl s⟩
  by_cases hloads : ¬ (image.shdr i).Loads
  · simp only [if_neg hout, if_pos hloads]
    exact ⟨s, rfl, .refl s⟩
  simp only [if_neg hout, if_neg hloads]
  cases hroom : poolAlloc s.poolCursor (image.shdr i).shSize (sectionAlign (image.shdr i)) with
  | none => exact ⟨s, rfl, .refl s⟩
  | some room =>
    obtain ⟨off, cursor⟩ := room
    refine ⟨s.placeSection slot image (image.shdr i) (pool.base + off) cursor, ?_,
      s.placed_placeSection _ _ _⟩
    simp only [(tell_bind _ _).2]
    by_cases hbits : (image.shdr i).shType ≠ shtNobits
    · rw [if_pos hbits]
      rfl
    · rw [if_neg hbits]
      rfl

variable (pool slot image) in
lemma loadSections_follows (l : List Nat) (s : ModuleLoader) (t : SectionTable) :
    FollowsLayout slot s (l.foldlM (layoutSection pool image) (s.poolCursor, t))
      (l.foldlM (loadSection pool slot image) (s, t)).result := by
  induction l generalizing s t with
  | nil => exact ⟨s, rfl, .refl s⟩
  | cons i l ih =>
    rw [List.foldlM_cons, List.foldlM_cons]
    have hround := loadSection_follows pool slot image s t i
    cases hlayout : layoutSection pool image (s.poolCursor, t) i with
    | error c =>
      rw [hlayout] at hround
      obtain ⟨s₁, hres, hplaced⟩ := hround
      exact ⟨s₁, (bind_of_error hres _).2, hplaced⟩
    | ok l₁ =>
      rw [hlayout] at hround
      obtain ⟨s₁, hres, hplaced⟩ := hround
      have hrest := ih s₁ l₁.2
      rw [hplaced.beside.cursor] at hrest
      rw [(bind_of_ok hres _).2]
      change FollowsLayout slot s (l.foldlM (layoutSection pool image) l₁) _
      cases hmore : l.foldlM (layoutSection pool image) l₁ with
      | error c =>
        rw [hmore] at hrest
        obtain ⟨s₂, hres₂, hplaced₂⟩ := hrest
        exact ⟨s₂, hres₂, hplaced.trans hplaced₂⟩
      | ok l₂ =>
        rw [hmore] at hrest
        obtain ⟨s₂, hres₂, hplaced₂⟩ := hrest
        exact ⟨s₂, hres₂, hplaced.trans hplaced₂⟩

/-! ### The fates of relocations -/

inductive RelocFate where
  | refused
  | applied
  | bound (owner : Fin 12)
  | queued
  deriving DecidableEq

/-- A type of relocation that the loader knows. -/
def TypeSupported (relType : Nat) : Prop :=
  relType ∈ [r386None, r38632, r386Pc32, r386GlobDat, r386JmpSlot, r386Relative]

instance (relType : Nat) : Decidable (TypeSupported relType) :=
  inferInstanceAs (Decidable (relType ∈ _))

def typeFate (relType : Nat) : RelocFate := if TypeSupported relType then .applied else .refused

variable (image) in
/-- What becomes of a relocation, when its symbol is looked up in `s`. -/
def relocFate (s : ModuleLoader) (t : SectionTable) (relSec symSec strSec : Elf32Shdr) (r : Nat) :
    RelocFate :=
  let rel := image.rel relSec r
  let sym := image.sym symSec rel.symIdx
  if symSec.symCount ≤ rel.symIdx then .refused
  else if (image.shdr relSec.shInfo).shSize < u32 (rel.rOffset + 4) then .refused
  else if sym.stShndx = shnUndef then
    if strSec.shSize ≤ sym.stName then .refused
    else
      match s.resolveExternalSymbol (image.name strSec sym) with
      | none =>
        if lazyTypeSupported rel.relType ∧ s.freePending ≠ none then .queued else .refused
      | some (_, none) => typeFate rel.relType
      | some (_, some owner) => .bound owner
  else if computeSymbolAddr sym t.secAddrs image.eShnum = none then .refused
  else typeFate rel.relType

inductive RelocStep (slot : Fin 12) (s : ModuleLoader) :
    RelocFate → Except ModuleLoader ModuleLoader → Prop where
  | refused : RelocStep slot s .refused (.error s)
  | applied (memory : Nat → UInt8) : RelocStep slot s .applied (.ok { s with memory := memory })
  | bound {owner : Fin 12} {s' : ModuleLoader} (name : CString) {addr : Nat}
      (hname : s.resolveExternalSymbol name = some (addr, some owner))
      (hdep : s.addDependency slot (some owner) = some s') (memory : Nat → UInt8) :
      RelocStep slot s (.bound owner) (.ok { s' with memory := memory })
  | boundRefused {owner : Fin 12} {s' : ModuleLoader} (name : CString) {addr : Nat}
      (hname : s.resolveExternalSymbol name = some (addr, some owner))
      (hdep : s.addDependency slot (some owner) = some s') :
      RelocStep slot s (.bound owner) (.error s')
  | full {owner : Fin 12} (hdep : s.addDependency slot (some owner) = none) :
      RelocStep slot s (.bound owner) (.error s)
  | queued {i : Fin 192} (hi : s.freePending = some i) {p : NsPendingReloc}
      (hp : p.targetSlot = slot) (memory : Nat → UInt8) :
      RelocStep slot s .queued (.ok { s.setPending i (some p) with memory := memory })

lemma relocatedWord_eq_none_iff {relType : Nat} (hnone : relType ≠ r386None)
    (place addend symAddr imageBase : Nat) :
    relocatedWord relType place addend symAddr imageBase = none ↔ ¬ TypeSupported relType := by
  unfold relocatedWord TypeSupported
  split_ifs with h₁ h₂ h₃ h₄
  · simp [h₁]
  · simp [h₂]
  · rcases h₃ with h | h <;> simp [h]
  · simp [h₄]
  · rw [not_or] at h₃
    simp [hnone, h₁, h₂, h₃.1, h₃.2, h₄]

variable (slot) in
lemma applyRelocation_result (t : SectionTable) (relSec target : Elf32Shdr) (rel : Elf32Rela)
    (addend symAddr : Nat) (s : ModuleLoader) :
    (TypeSupported rel.relType ∧ ∃ memory,
      (applyRelocation slot t relSec target rel addend symAddr s).result =
        .ok { s with memory := memory }) ∨
    ¬ TypeSupported rel.relType ∧
      (applyRelocation slot t relSec target rel addend symAddr s).result = .error s := by
  unfold applyRelocation
  by_cases hnone : rel.relType = r386None
  · rw [if_pos hnone]
    exact Or.inl ⟨by simp [TypeSupported, hnone], s.memory, rfl⟩
  rw [if_neg hnone]
  have hiff := relocatedWord_eq_none_iff hnone (relocPlace t relSec rel) addend symAddr
    (s.modules slot).imageBase
  cases hword : relocatedWord rel.relType (relocPlace t relSec rel) addend symAddr
      (s.modules slot).imageBase with
  | none => exact Or.inr ⟨hiff.1 hword, by simp only [hword]; rfl⟩
  | some v =>
    refine Or.inl ⟨?_, storeWord s.memory (relocPlace t relSec rel) v, by simp only [hword]; rfl⟩
    by_contra h
    rw [hiff.2 h] at hword
    cases hword

lemma applyRelocation_step (t : SectionTable) (relSec target : Elf32Shdr) (rel : Elf32Rela)
    (addend symAddr : Nat) (s : ModuleLoader) :
    RelocStep slot s (typeFate rel.relType)
      (applyRelocation slot t relSec target rel addend symAddr s).result := by
  unfold typeFate
  rcases applyRelocation_result slot t relSec target rel addend symAddr s with
    ⟨h, memory, hres⟩ | ⟨h, hres⟩
  · rw [if_pos h, hres]
    exact .applied memory
  · rw [if_neg h, hres]
    exact .refused

variable (slot) in
lemma result_readAddend (t : SectionTable) (relSec target : Elf32Shdr) (rel : Elf32Rela)
    (s : ModuleLoader) : ∃ addend, (readAddend slot t relSec target rel s).result = .ok addend := by
  unfold readAddend
  by_cases hrela : relSec.IsRela
  · exact ⟨_, by rw [if_pos hrela]; rfl⟩
  · exact ⟨_, by rw [if_neg hrela]; rfl⟩

variable (slot image) in
lemma relocateEntry_step (t : SectionTable) (relSec symSec strSec : Elf32Shdr) (s : ModuleLoader)
    (r : Nat) : RelocStep slot s (relocFate image s t relSec symSec strSec r)
      (relocateEntry slot image t relSec symSec strSec s r).result := by
  unfold relocFate relocateEntry
  rw [result_bind_ok (a := image.rel relSec r) rfl]
  by_cases hidx : symSec.symCount ≤ (image.rel relSec r).symIdx
  · simp only [if_pos hidx]
    exact .refused
  simp only [if_neg hidx]
  rw [result_bind_ok (a := image.shdr relSec.shInfo) rfl]
  by_cases hoff : (image.shdr relSec.shInfo).shSize < u32 ((image.rel relSec r).rOffset + 4)
  · simp only [if_pos hoff]
    exact .refused
  simp only [if_neg hoff]
  obtain ⟨addend, haddend⟩ := result_readAddend slot t relSec (image.shdr relSec.shInfo)
    (image.rel relSec r) s
  rw [result_bind_ok haddend,
    result_bind_ok (a := image.sym symSec (image.rel relSec r).symIdx) rfl]
  by_cases hundef : (image.sym symSec (image.rel relSec r).symIdx).stShndx = shnUndef
  swap
  · simp only [if_neg hundef]
    unfold relocateLocal
    cases haddr : computeSymbolAddr (image.sym symSec (image.rel relSec r).symIdx) t.secAddrs
        image.eShnum with
    | none =>
      rw [if_pos rfl]
      exact .refused
    | some symAddr =>
      rw [if_neg (by simp)]
      exact applyRelocation_step t relSec _ _ addend symAddr s
  simp only [if_pos hundef]
  unfold relocateExternal
  by_cases hname : strSec.shSize ≤ (image.sym symSec (image.rel relSec r).symIdx).stName
  · simp only [if_pos hname]
    exact .refused
  simp only [if_neg hname]
  rw [(tell_bind _ _).2]
  cases hres : s.resolveExternalSymbol
      (image.name strSec (image.sym symSec (image.rel relSec r).symIdx)) with
  | none =>
    by_cases hlazy : lazyTypeSupported (image.rel relSec r).relType = true
    · simp only [if_pos hlazy, ModuleLoader.addPendingReloc]
      cases hfree : s.freePending with
      | none =>
        rw [if_neg (by simp)]
        exact .refused
      | some i =>
        rw [if_pos ⟨hlazy, by simp⟩]
        exact .queued hfree (p := ⟨slot, relocPlace t relSec (image.rel relSec r), _, addend, _⟩)
          rfl (storeWord s.memory (relocPlace t relSec (image.rel relSec r)) 0)
    · rw [if_neg fun h => hlazy h.1]
      simp only [if_neg hlazy]
      exact .refused
  | some found =>
    obtain ⟨symAddr, owner⟩ := found
    cases owner with
    | none => exact applyRelocation_step t relSec _ _ addend symAddr s
    | some owner =>
      cases hdep : s.addDependency slot (some owner) with
      | none =>
        simp only [hdep]
        exact .full hdep
      | some s' =>
        simp only [hdep]
        rcases applyRelocation_result slot t relSec (image.shdr relSec.shInfo)
          (image.rel relSec r) addend symAddr s' with ⟨-, memory, happly⟩ | ⟨-, happly⟩
        · rw [happly]
          exact .bound _ hres hdep memory
        · rw [happly]
          exact .boundRefused _ hres hdep

/-! ### The relocations of an image -/

variable (image) in
/-- The fates of the relocations in a section, or that of the section. -/
def relocFates (s : ModuleLoader) (t : SectionTable) (i : Nat) : List RelocFate :=
  let relSec := image.shdr i
  if relSec.IsRel ∨ relSec.IsRela then
    if image.eShnum ≤ relSec.shInfo ∨ image.eShnum ≤ relSec.shLink then [.refused]
    else if t.secAddrs relSec.shInfo = 0 then []
    else
      let symSec := image.shdr relSec.shLink
      if ¬ symSec.IsSymbols ∨ symSec.shEntsize ≠ 16 ∨ image.eShnum ≤ symSec.shLink then [.refused]
      else
        let strSec := image.shdr symSec.shLink
        if strSec.shType ≠ shtStrtab then [.refused]
        else if symSec.Outside image.size ∨ strSec.Outside image.size ∨
            relSec.Outside image.size then [.refused]
        else
          (List.range (relSec.shSize / relSec.shEntsize)).map
            (relocFate image s t relSec symSec strSec)
  else []

variable (slot image) in
/-- A section is passed over, it is refused, or its relocations are gone through. -/
lemma relocateSection_cases (t : SectionTable) (i : Nat) :
    (∀ s, relocFates image s t i = [] ∧ (relocateSection slot image t s i).result = .ok s) ∨
      (∀ s, relocFates image s t i = [.refused] ∧
        (relocateSection slot image t s i).result = .error s) ∨
      ∃ relSec symSec strSec n, ∀ s,
        relocFates image s t i =
          (List.range n).map (relocFate image s t relSec symSec strSec) ∧
        (relocateSection slot image t s i).result =
          ((List.range n).foldlM (relocateEntry slot image t relSec symSec strSec) s).result := by
  unfold relocFates relocateSection
  simp only [result_bind_ok (x := readShdr image _) rfl]
  by_cases hrel : (image.shdr i).IsRel ∨ (image.shdr i).IsRela
  swap
  · simp only [if_neg hrel]
    exact Or.inl fun s => ⟨trivial, rfl⟩
  simp only [if_pos hrel]
  by_cases hlinks : image.eShnum ≤ (image.shdr i).shInfo ∨ image.eShnum ≤ (image.shdr i).shLink
  · simp only [if_pos hlinks]
    exact Or.inr (Or.inl fun s => ⟨trivial, rfl⟩)
  simp only [if_neg hlinks]
  by_cases htarget : t.secAddrs (image.shdr i).shInfo = 0
  · simp only [if_pos htarget]
    exact Or.inl fun s => ⟨trivial, rfl⟩
  simp only [if_neg htarget, result_bind_ok (x := readShdr image _) rfl]
  generalize image.shdr (image.shdr i).shLink = symSec
  by_cases hsym : ¬ symSec.IsSymbols ∨ symSec.shEntsize ≠ 16 ∨ image.eShnum ≤ symSec.shLink
  · simp only [if_pos hsym]
    exact Or.inr (Or.inl fun s => ⟨trivial, rfl⟩)
  simp only [if_neg hsym, result_bind_ok (x := readShdr image _) rfl]
  split_ifs
  · exact Or.inr (Or.inl fun s => ⟨rfl, rfl⟩)
  · exact Or.inr (Or.inl fun s => ⟨rfl, rfl⟩)
  · exact Or.inr (Or.inr ⟨_, _, _, _, fun s => ⟨rfl, rfl⟩⟩)

variable {I : ModuleLoader → Prop}

/-- The state in which a load goes on or gives up. -/
def ends : Except ModuleLoader ModuleLoader → ModuleLoader
  | .ok s => s
  | .error s => s

@[simp] lemma ends_ok (s : ModuleLoader) : ends (.ok s) = s := rfl
@[simp] lemma ends_error (s : ModuleLoader) : ends (.error s) = s := rfl

lemma ends_bind {x : Loads ModuleLoader} {f : ModuleLoader → Loads ModuleLoader}
    (hx : I (ends x.result))
    (hf : ∀ s, I s → I (ends (f s).result)) : I (ends (x >>= f).result) := by
  cases h : x.result with
  | error s =>
    rw [h] at hx
    rwa [(bind_of_error h f).2]
  | ok s =>
    rw [h] at hx
    rw [(bind_of_ok h f).2]
    exact hf s hx

lemma ends_foldlM {α : Type} {f : ModuleLoader → α → Loads ModuleLoader} {l : List α}
    (hround : ∀ a ∈ l, ∀ s, I s → I (ends (f s a).result)) {s : ModuleLoader}
    (hs : I s) : I (ends (l.foldlM f s).result) := by
  induction l generalizing s with
  | nil => exact hs
  | cons a l ih =>
    exact ends_bind (hround a List.mem_cons_self s hs) fun s' hs' =>
      ih (fun b hb => hround b (List.mem_cons_of_mem a hb)) hs'

lemma relocate_invariant (hstep : ∀ s fate res, I s → RelocStep slot s fate res → I (ends res))
    (t : SectionTable) (l : List Nat)
    (hs : I s) : I (ends (l.foldlM (relocateSection slot image t) s).result) := by
  refine ends_foldlM (fun i _ s hs => ?_) hs
  rcases relocateSection_cases slot image t i with h | h | ⟨_, _, _, n, h⟩
  · rwa [(h s).2]
  · rwa [(h s).2]
  · rw [(h s).2]
    exact ends_foldlM (fun r _ s hs => hstep s _ _ hs (relocateEntry_step ..)) hs

/-- Relocations change the dependencies of the module, the counts of modules, and what waits. -/
structure ModuleLoader.Relocated (slot : Fin 12) (s s' : ModuleLoader) : Prop where
  cursor : s'.poolCursor = s.poolCursor
  kernelExports : s'.kernelExports = s.kernelExports
  others : ∀ m ≠ slot, ∃ refCount, s'.modules m = { s.modules m with refCount := refCount }
  own : ∃ refCount deps,
    s'.modules slot = { s.modules slot with refCount := refCount, deps := deps }

lemma ModuleLoader.Relocated.refl (s : ModuleLoader) : s.Relocated slot s :=
  ⟨rfl, rfl, fun _ _ => ⟨_, rfl⟩, _, _, rfl⟩

lemma ModuleLoader.Relocated.trans (h : s.Relocated slot s') (h' : s'.Relocated slot s'') :
    s.Relocated slot s'' := by
  refine ⟨h'.cursor.trans h.cursor, h'.kernelExports.trans h.kernelExports, fun m hm => ?_, ?_⟩
  · obtain ⟨refCount, hown⟩ := h.others m hm
    obtain ⟨refCount', hown'⟩ := h'.others m hm
    exact ⟨refCount', by rw [hown', hown]⟩
  · obtain ⟨refCount, deps, hown⟩ := h.own
    obtain ⟨refCount', deps', hown'⟩ := h'.own
    exact ⟨refCount', deps', by rw [hown', hown]⟩

lemma ModuleLoader.relocated_addDependency {owner : Fin 12}
    (h : s.addDependency slot (some owner) = some s') : s.Relocated slot s' := by
  rcases addDependency_cases h with ⟨-, rfl⟩ | ⟨-, -, rfl⟩
  · exact .refl _
  refine ⟨rfl, rfl, fun m hm => ?_, ?_⟩
  · by_cases hmo : m = owner
    · subst hmo
      rw [modify_self, modify_of_ne _ hm]
      exact ⟨_, rfl⟩
    · rw [modify_of_ne _ hmo, modify_of_ne _ hm]
      exact ⟨_, rfl⟩
  · by_cases hso : slot = owner
    · subst hso
      rw [modify_self, modify_self]
      exact ⟨_, _, rfl⟩
    · rw [modify_of_ne _ hso, modify_self]
      exact ⟨_, _, rfl⟩

lemma RelocStep.relocated {fate : RelocFate} {res : Except ModuleLoader ModuleLoader}
    (h : RelocStep slot s fate res) : s.Relocated slot (ends res) := by
  cases h with
  | refused => exact .refl s
  | applied memory => exact ⟨rfl, rfl, fun _ _ => ⟨_, rfl⟩, _, _, rfl⟩
  | bound name hname hdep memory =>
    obtain ⟨hcursor, hkernel, hothers, hown⟩ := ModuleLoader.relocated_addDependency hdep
    exact ⟨hcursor, hkernel, hothers, hown⟩
  | boundRefused name hname hdep => exact ModuleLoader.relocated_addDependency hdep
  | full hdep => exact .refl s
  | queued hi hp memory => exact ⟨rfl, rfl, fun _ _ => ⟨_, rfl⟩, _, _, rfl⟩

variable (slot image) in
lemma relocations_relocated (t : SectionTable) (l : List Nat) (s : ModuleLoader) :
    s.Relocated slot (ends (l.foldlM (relocateSection slot image t) s).result) :=
  relocate_invariant (fun _ _ _ h hstep => h.trans hstep.relocated) t l (.refl s)

/-! ### Exports and entry points -/

/-- Exporting sets the exports of the module and its entry points. -/
structure ModuleLoader.Exported (slot : Fin 12) (s s' : ModuleLoader) : Prop where
  beside : s.Beside slot s'
  own : ∃ exports initAddr finiAddr, s'.modules slot =
    { s.modules slot with exports := exports, initAddr := initAddr, finiAddr := finiAddr }

lemma ModuleLoader.Exported.refl (s : ModuleLoader) : s.Exported slot s :=
  ⟨.refl s, _, _, _, rfl⟩

lemma ModuleLoader.Exported.trans (h : s.Exported slot s') (h' : s'.Exported slot s'') :
    s.Exported slot s'' := by
  obtain ⟨exports, initAddr, finiAddr, hown⟩ := h.own
  obtain ⟨exports', initAddr', finiAddr', hown'⟩ := h'.own
  exact ⟨h.beside.trans h'.beside, exports', initAddr', finiAddr', by rw [hown', hown]⟩

lemma ModuleLoader.exported_modify (s : ModuleLoader) {f : NsLoadedObject → NsLoadedObject}
    (hf : ∀ m, ∃ exports initAddr finiAddr,
      f m = { m with exports := exports, initAddr := initAddr, finiAddr := finiAddr }) :
    s.Exported slot (s.modify slot f) :=
  ⟨s.beside_modify f, by rw [modify_self]; exact hf _⟩

lemma ModuleLoader.moduleDlsym_fst (s : ModuleLoader) (handle : Int) (symbol : CString) :
    ∃ dlerror, (s.moduleDlsym handle symbol).1 = { s with dlerror := dlerror } := by
  unfold ModuleLoader.moduleDlsym
  cases s.findModuleSlotByHandle handle with
  | none => exact ⟨_, rfl⟩
  | some i =>
    by_cases hsymbol : symbol = []
    · simp only [if_pos hsymbol]
      exact ⟨_, rfl⟩
    simp only [if_neg hsymbol]
    cases findExport (s.modules i).exports symbol with
    | none | some => exact ⟨_, rfl⟩

lemma ModuleLoader.exported_dlerror (s : ModuleLoader) (dlerror : Fin 8 → String) :
    s.Exported slot { s with dlerror := dlerror } :=
  ⟨⟨fun _ _ => rfl, rfl, rfl, rfl⟩, _, _, _, rfl⟩

lemma ModuleLoader.exported_moduleDlsym (s : ModuleLoader) (handle : Int) (symbol : CString) :
    s.Exported slot (s.moduleDlsym handle symbol).1 := by
  obtain ⟨dlerror, h⟩ := s.moduleDlsym_fst handle symbol
  rw [h]
  exact s.exported_dlerror dlerror

variable (image) in
/-- The exports after a symbol was looked at. -/
def exportStep (t : SectionTable) (symSec strSec : Elf32Shdr) (exports : List NsExport) (k : Nat) :
    List NsExport :=
  match image.exported t symSec strSec k with
  | none => exports
  | some e => moduleAddExport exports e.1 e.2

lemma exported_eq_some {t : SectionTable} {symSec strSec : Elf32Shdr} {k : Nat} {e : CString × Nat}
    (h : image.exported t symSec strSec k = some e) :
    e.1 = image.name strSec (image.sym symSec k) ∧ e.1 ≠ [] ∧ (image.sym symSec k).IsExported ∧
      computeSymbolAddr (image.sym symSec k) t.secAddrs image.eShnum = some e.2 := by
  simp only [ModuleImage.exported] at h
  split_ifs at h with hnot
  obtain ⟨addr, haddr, rfl⟩ := Option.map_eq_some_iff.1 h
  exact ⟨rfl, fun hnil => hnot (Or.inr (Or.inr hnil)), not_not.1 fun h => hnot (Or.inr (Or.inl h)),
    haddr⟩

lemma result_exportSymbol (t : SectionTable) (symSec strSec : Elf32Shdr) (exports : List NsExport)
    (k : Nat) : (exportSymbol image t symSec strSec exports k).result =
      .ok (exportStep image t symSec strSec exports k) := by
  unfold exportStep exportSymbol ModuleImage.exported
  rw [result_bind_ok (a := image.sym symSec k) rfl]
  by_cases hname : strSec.shSize ≤ (image.sym symSec k).stName
  · simp only [if_pos hname, if_pos (Or.inl hname)]
    rfl
  cases haddr : computeSymbolAddr (image.sym symSec k) t.secAddrs image.eShnum with
  | none =>
    simp only [if_neg hname, haddr, Option.map_none, ite_self]
    rfl
  | some addr =>
    by_cases hexported : (image.sym symSec k).IsExported
    swap
    · simp only [if_neg hname, if_neg hexported, if_pos (Or.inr (Or.inl hexported))]
      rfl
    simp only [if_neg hname, if_pos hexported, (tell_bind _ _).2]
    have hresult : ∀ (p : Prop) [Decidable p] (e : ModuleEvent) (exports' : List NsExport),
        (do if p then tell e
            return exports' : Loads (List NsExport)).result = .ok exports' := by
      intro p _ e exports'
      by_cases hp : p
      · rw [if_pos hp]
        rfl
      · rw [if_neg hp]
        rfl
    rw [hresult]
    by_cases hnil : image.name strSec (image.sym symSec k) = []
    · rw [if_pos (Or.inr (Or.inr hnil)), hnil]
      simp [moduleAddExport, putExport]
    · rw [if_neg (by simp [hname, hexported, hnil]), haddr]
      rfl

variable (image) in
/-- The symbols of a table are exported. -/
def tableExports (t : SectionTable) (i : Nat) (exports : List NsExport) : List NsExport :=
  (List.range (image.shdr i).symCount).foldl
    (exportStep image t (image.shdr i) (image.shdr (image.shdr i).shLink)) exports

variable (image) in
/-- The link of a symbol table to its names is right. -/
def HasNames (i : Nat) : Prop :=
  ¬ image.eShnum ≤ (image.shdr i).shLink ∧
    ¬ (image.shdr (image.shdr i).shLink).shType ≠ shtStrtab

variable (slot image) in
lemma exportSymbols_result (t : SectionTable) (s : ModuleLoader) :
    (t.exportIdx = none ∧ (exportSymbols slot image t s).result = .ok s) ∨
      ∃ i, t.exportIdx = some i ∧
        (¬ HasNames image i ∧ (exportSymbols slot image t s).result = .error s ∨
          HasNames image i ∧ (exportSymbols slot image t s).result =
            .ok (s.modify slot fun m =>
              { m with exports := tableExports image t i (s.modules slot).exports })) := by
  unfold exportSymbols HasNames
  cases hidx : t.exportIdx with
  | none => exact Or.inl ⟨rfl, rfl⟩
  | some i =>
    refine Or.inr ⟨i, rfl, ?_⟩
    simp only [result_bind_ok (x := readShdr image _) rfl]
    by_cases hlink : image.eShnum ≤ (image.shdr i).shLink
    · rw [if_pos hlink]
      exact Or.inl ⟨fun h => h.1 hlink, rfl⟩
    rw [if_neg hlink]
    simp only [result_bind_ok (x := readShdr image _) rfl]
    by_cases htype : (image.shdr (image.shdr i).shLink).shType ≠ shtStrtab
    · rw [if_pos htype]
      exact Or.inl ⟨fun h => h.2 htype, rfl⟩
    rw [if_neg htype, result_bind_ok (result_foldlM_ok
      (result_exportSymbol t (image.shdr i) (image.shdr (image.shdr i).shLink)) _ _)]
    exact Or.inr ⟨⟨hlink, htype⟩, rfl⟩

lemma exportSymbols_exported (t : SectionTable) (s : ModuleLoader) :
    s.Exported slot (ends (exportSymbols slot image t s).result) := by
  rcases exportSymbols_result slot image t s with
    ⟨-, h⟩ | ⟨i, -, ⟨-, h⟩ | ⟨-, h⟩⟩
  · rw [h]
    exact .refl s
  · rw [h]
    exact .refl s
  · rw [h, ends_ok]
    exact s.exported_modify fun m => ⟨_, _, _, rfl⟩

lemma ModuleLoader.exported_withEntryPoints (s : ModuleLoader) :
    s.Exported slot (s.withEntryPoints slot) := by
  have hinit : s.Exported slot (s.moduleDlsym (handleOf slot) nsModuleInit).1 :=
    s.exported_moduleDlsym _ _
  have hset := hinit.trans (exported_modify _ fun m => ⟨m.exports,
    (s.moduleDlsym (handleOf slot) nsModuleInit).2, m.finiAddr, rfl⟩)
  exact (hset.trans (exported_moduleDlsym _ (handleOf slot) nsModuleFini)).trans
    (exported_modify _ fun m => ⟨m.exports, m.initAddr, _, rfl⟩)

variable (slot image) in
lemma findEntryPoints_result (t : SectionTable) (s : ModuleLoader) :
    ∃ dlerror, (findEntryPoints slot image t s).result =
        .ok { s.withEntryPoints slot with dlerror := dlerror } ∨
      (findEntryPoints slot image t s).result =
        .error { s.withEntryPoints slot with dlerror := dlerror } := by
  unfold findEntryPoints
  by_cases hkind : ((s.withEntryPoints slot).modules slot).kind = .kernel
  swap
  · simp only [if_neg hkind]
    exact ⟨_, Or.inl rfl⟩
  simp only [if_pos hkind]
  unfold checkAbi
  obtain ⟨dlerror, hdlsym⟩ := (s.withEntryPoints slot).moduleDlsym_fst (handleOf slot) nsModuleAbi
  refine ⟨dlerror, ?_⟩
  rw [← hdlsym]
  generalize (s.withEntryPoints slot).moduleDlsym (handleOf slot) nsModuleAbi = found
  by_cases hzero : found.2 = 0
  · simp only [if_pos hzero]
    exact Or.inl rfl
  simp only [if_neg hzero, (tell_bind _ _).2]
  split_ifs
  · exact Or.inr rfl
  · exact Or.inl rfl

lemma findEntryPoints_exported (t : SectionTable) (s : ModuleLoader) :
    s.Exported slot (ends (findEntryPoints slot image t s).result) := by
  have hentry : s.Exported slot (s.withEntryPoints slot) := s.exported_withEntryPoints
  obtain ⟨dlerror, h | h⟩ := findEntryPoints_result slot image t s
  · rw [h]
    exact hentry.trans (ModuleLoader.exported_dlerror _ dlerror)
  · rw [h]
    exact hentry.trans (ModuleLoader.exported_dlerror _ dlerror)

variable (slot image) in
lemma exports_exported (t : SectionTable) (s : ModuleLoader) :
    s.Exported slot (ends (exportSymbols slot image t s >>= findEntryPoints slot image t).result) :=
  ends_bind (exportSymbols_exported t s) fun s' h => h.trans (findEntryPoints_exported t s')

variable (slot image) in
/-- A load after the sections are placed. -/
def linkModule (t : SectionTable) (s : ModuleLoader) : Loads ModuleLoader := do
  let s ← (List.range image.eShnum).foldlM (relocateSection slot image t) s
  exportSymbols slot image t s >>= findEntryPoints slot image t

variable (slot image) in
lemma linkModule_cursor (t : SectionTable) (s : ModuleLoader) :
    (ends (linkModule slot image t s).result).poolCursor = s.poolCursor :=
  ends_bind (I := fun s' => s'.poolCursor = s.poolCursor) (relocations_relocated slot image t _ s).cursor
    fun s' h => (exports_exported slot image t s').beside.cursor.trans h

variable (pool slot image) in
lemma loadObjectFromImage_cases (s : ModuleLoader) :
    (¬ image.HeaderAccepted ∧ (loadObjectFromImage pool slot image s).result = .error s) ∨
      (image.HeaderAccepted ∧ ∃ cursor s₁, layout pool image s.poolCursor = .error cursor ∧
        s.Placed slot s₁ cursor ∧ (loadObjectFromImage pool slot image s).result = .error s₁) ∨
      image.HeaderAccepted ∧ ∃ cursor t s₁, layout pool image s.poolCursor = .ok (cursor, t) ∧
        s.Placed slot s₁ cursor ∧
        (loadObjectFromImage pool slot image s).result = (linkModule slot image t s₁).result := by
  unfold loadObjectFromImage
  by_cases hsize : image.size < 52
  · rw [if_pos hsize]
    exact Or.inl ⟨fun hheader => absurd hheader.1 (not_le.2 hsize), rfl⟩
  rw [if_neg hsize, (tell_bind _ _).2]
  by_cases hheader : image.HeaderAccepted
  swap
  · rw [if_pos hheader]
    exact Or.inl ⟨hheader, rfl⟩
  rw [if_neg (not_not.2 hheader)]
  refine Or.inr ?_
  let s₀ := s.modify slot fun m => { m with imageBase := 0 }
  have hstart : s.Placed slot s₀ s.poolCursor :=
    ⟨s.beside_modify _, 0, s.modify_self _ _⟩
  have hplace := loadSections_follows pool slot image (List.range image.eShnum) s₀ .empty
  cases hlayout : layout pool image s.poolCursor with
  | error cursor =>
    rw [← layout, show s₀.poolCursor = s.poolCursor from rfl, hlayout] at hplace
    obtain ⟨s₁, hres, hplaced⟩ := hplace
    exact Or.inl ⟨hheader, cursor, s₁, rfl, hstart.trans hplaced, (bind_of_error hres _).2⟩
  | ok l =>
    rw [← layout, show s₀.poolCursor = s.poolCursor from rfl, hlayout] at hplace
    obtain ⟨s₁, hres, hplaced⟩ := hplace
    exact Or.inr ⟨hheader, l.1, l.2, s₁, rfl, hstart.trans hplaced, (bind_of_ok hres _).2⟩

/-- The state in which a module is loaded into a slot. -/
def ModuleLoader.starting (s : ModuleLoader) (slot : Fin 12) (kind : NsModuleKind)
    (path : CString) : ModuleLoader :=
  s.modify slot fun _ => .fresh kind path

/-- What a load leaves when it gives up. -/
def givenUp (slot : Fin 12) :
    Except ModuleLoader ModuleLoader → Except ModuleLoader (ModuleLoader × Int)
  | .ok s => .ok (s, handleOf slot)
  | .error s => .error (s.modify slot fun _ => .zero)

lemma not_used_of_alloc (h : s.allocModuleSlot = some slot) : (s.modules slot).used = false := by
  simpa using List.find?_some h

variable (pool) in
/-- The call is refused, or the module is in the table, or it is loaded into a free slot. -/
lemma loadNewModule_cases (path : CString) (kind : NsModuleKind) (file : ModuleFile)
    (s : ModuleLoader) :
    ((path = [] ∨ ¬ file.Accepted ∨ s.allocModuleSlot = none) ∧
        (loadNewModule pool path kind file s).result = .error s) ∨
      (∃ slot, s.findModuleSlotByPath path kind = some slot ∧
        (loadNewModule pool path kind file s).result =
          .ok (s.modify slot fun m => { m with refCount := m.refCount + 1 }, handleOf slot)) ∨
      ∃ slot, path ≠ [] ∧ file.Accepted ∧ s.findModuleSlotByPath path kind = none ∧
        s.allocModuleSlot = some slot ∧ (loadNewModule pool path kind file s).result =
          givenUp slot
            (loadObjectFromImage pool slot file.image (s.starting slot kind path)).result := by
  unfold loadNewModule
  by_cases hpath : path = []
  · rw [if_pos hpath]
    exact Or.inl ⟨Or.inl hpath, rfl⟩
  rw [if_neg hpath]
  cases hfind : s.findModuleSlotByPath path kind with
  | some slot => exact Or.inr (Or.inl ⟨slot, rfl, rfl⟩)
  | none =>
    by_cases haccepted : file.Accepted
    swap
    · simp only [if_pos haccepted]
      exact Or.inl ⟨Or.inr (Or.inl haccepted), rfl⟩
    simp only [if_neg (not_not.2 haccepted)]
    cases halloc : s.allocModuleSlot with
    | none => exact Or.inl ⟨Or.inr (Or.inr rfl), rfl⟩
    | some slot =>
      refine Or.inr (Or.inr ⟨slot, hpath, haccepted, trivial, rfl, ?_⟩)
      simp only [(tell_bind _ _).2]
      rw [result_bind_ok (result_attempt _)]
      unfold ModuleLoader.starting givenUp
      cases (loadObjectFromImage pool slot file.image
        (s.modify slot fun _ => .fresh kind path)).result with
      | ok s' => rfl
      | error s' => rfl

end

end NeuroSpark.Modules
