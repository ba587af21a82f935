import NeuroSpark.Lib.Machine
import NeuroSpark.Disk.PageCache

/-!
# The page cache refines a flat disk

What the kernel sees at an LBA is the cached line when there is one and the device otherwise
(`Disk.view`). Lookups, write-backs and the clock never change this view; only a write does, and
at its own LBA. The invariant that carries this is `Disk.Coherent`: no LBA has two valid lines, and
a valid line that is not dirty holds what the device holds. It is about the LBAs of a set, because
on a device that does not take whole LBAs a write-back changes what other LBAs show too.
-/

namespace NeuroSpark

open Function (update update_self update_of_ne)

/-- Line `i` is valid and caches `lba`. -/
def Disk.Holds (s : Disk) (i : Fin 32) (lba : Nat) : Prop :=
  (s.line i).valid = true ∧ (s.line i).lba = lba

/-- The contents of an LBA as the kernel sees it. -/
def Disk.view (s : Disk) (lba : Nat) : Sector :=
  match findLine s lba with
  | some i => (s.line i).data
  | none => s.dev.contents lba

structure Disk.Coherent (P : Nat → Prop) (s : Disk) : Prop where
  unique : ∀ i j lba, s.Holds i lba → s.Holds j lba → i = j
  clean : ∀ i lba, P lba → s.Holds i lba → (s.line i).dirty = false →
    (s.line i).data = s.dev.contents lba
  dirty : ∀ i lba, s.Holds i lba → (s.line i).dirty = true → P lba
  fresh : s.cache.cacheInitialized = false → ∀ i, (s.line i).valid = false

/-- The LBAs that name one sector show the same. -/
def Disk.Agrees (P : Nat → Prop) (s : Disk) : Prop :=
  ∀ l l', P l → P l' → s.dev.sectorOf l = s.dev.sectorOf l' → s.view l = s.view l'

variable {P Q : Nat → Prop} {lba : Nat} {s : Disk}

lemma findLine_eq_some {i : Fin 32} (h : findLine s lba = some i) : s.Holds i lba := by
  simpa [Disk.Holds] using List.find?_some h

lemma findLine_eq_none_iff : findLine s lba = none ↔ ∀ i, ¬ s.Holds i lba := by
  simp [findLine, Disk.Holds]

lemma Disk.view_of_holds (hs : s.Coherent P) {i : Fin 32}
    (h : s.Holds i lba) : s.view lba = (s.line i).data := by
  rw [Disk.view]
  cases hf : findLine s lba with
  | none => exact absurd h (findLine_eq_none_iff.mp hf i)
  | some j => rw [hs.unique i j lba h (findLine_eq_some hf)]

lemma Disk.view_of_not_holds (h : ∀ i, ¬ s.Holds i lba) : s.view lba = s.dev.contents lba := by
  rw [Disk.view, findLine_eq_none_iff.mpr h]

lemma Disk.view_congr {s t : Disk} (hs : s.Coherent P) (ht : t.Coherent Q)
    (hl : ∀ i, s.Holds i lba → t.Holds i lba ∧ (t.line i).data = (s.line i).data)
    (hd : (∀ i, ¬ s.Holds i lba) → t.view lba = s.dev.contents lba) : t.view lba = s.view lba := by
  by_cases h : ∃ i, s.Holds i lba
  · obtain ⟨i, hi⟩ := h
    obtain ⟨hti, hdata⟩ := hl i hi
    rw [Disk.view_of_holds hs hi, Disk.view_of_holds ht hti, hdata]
  · push Not at h
    rw [Disk.view_of_not_holds h, hd h]

lemma Disk.Coherent.contents_eq_view (hs : s.Coherent P) (hP : P lba)
    (h : ∀ i, s.Holds i lba → (s.line i).dirty = false) : s.dev.contents lba = s.view lba := by
  by_cases hi : ∃ i, s.Holds i lba
  · obtain ⟨i, hi⟩ := hi
    rw [Disk.view_of_holds hs hi, hs.clean i lba hP hi (h i hi)]
  · push Not at hi
    rw [Disk.view_of_not_holds hi]

section SetLine

variable {s : Disk} {i : Fin 32} {l : CacheLine}

lemma Disk.holds_setLine_same {lba : Nat} :
    (s.setLine i l).Holds i lba ↔ l.valid = true ∧ l.lba = lba := by
  simp [Disk.Holds]

lemma Disk.holds_setLine_of_ne {j : Fin 32} {lba : Nat} (h : j ≠ i) :
    (s.setLine i l).Holds j lba ↔ s.Holds j lba := by
  simp [Disk.Holds, Disk.line_setLine_of_ne s l h]

/-- A line may be replaced as long as its LBA is nowhere else and its contents are dirty or those
of the device. With a dirty line its LBA may join the set. -/
lemma Disk.Coherent.setLine (hs : s.Coherent P) (hi : s.cache.cacheInitialized = true)
    (hPQ : ∀ lba, P lba → Q lba) (hQ : ∀ lba, Q lba → P lba ∨ l.valid = true ∧ lba = l.lba)
    (hother : l.valid = true → ∀ j, j ≠ i → ¬ s.Holds j l.lba)
    (hclean : Q l.lba → l.valid = true → l.dirty = false → l.data = s.dev.contents l.lba)
    (hdirty : l.valid = true → l.dirty = true → Q l.lba) : (s.setLine i l).Coherent Q := by
  constructor
  · intro j k lba hj hk
    by_cases hji : j = i <;> by_cases hki : k = i
    · rw [hji, hki]
    · subst hji
      obtain ⟨hv, rfl⟩ := Disk.holds_setLine_same.mp hj
      exact absurd ((Disk.holds_setLine_of_ne hki).mp hk) (hother hv k hki)
    · subst hki
      obtain ⟨hv, rfl⟩ := Disk.holds_setLine_same.mp hk
      exact absurd ((Disk.holds_setLine_of_ne hji).mp hj) (hother hv j hji)
    · exact hs.unique j k lba ((Disk.holds_setLine_of_ne hji).mp hj)
        ((Disk.holds_setLine_of_ne hki).mp hk)
  · intro j lba hlba hj hd
    by_cases hji : j = i
    · subst hji
      obtain ⟨hv, rfl⟩ := Disk.holds_setLine_same.mp hj
      rw [Disk.line_setLine_same] at hd ⊢
      exact hclean hlba hv hd
    · have hj' := (Disk.holds_setLine_of_ne hji).mp hj
      rw [Disk.line_setLine_of_ne s l hji] at hd ⊢
      rcases hQ lba hlba with hlba | ⟨hv, rfl⟩
      · exact hs.clean j lba hlba hj' hd
      · exact absurd hj' (hother hv j hji)
  · intro j lba hj hd
    by_cases hji : j = i
    · subst hji
      obtain ⟨hv, rfl⟩ := Disk.holds_setLine_same.mp hj
      rw [Disk.line_setLine_same] at hd
      exact hdirty hv hd
    · rw [Disk.line_setLine_of_ne s l hji] at hd
      exact hPQ lba (hs.dirty j lba ((Disk.holds_setLine_of_ne hji).mp hj) hd)
  · intro h
    rw [Disk.setLine_cacheInitialized, hi] at h
    cases h

end SetLine

variable {s : Disk}

/-! ### What the replacement machinery keeps -/

/-- `t` shows the same contents as `s`, and caches no LBA that `s` does not. -/
structure Disk.Settles (P : Nat → Prop) (s t : Disk) : Prop where
  coherent : t.Coherent P
  faultless : t.dev.Faultless
  backend : t.dev.backend = s.dev.backend
  init : t.cache.cacheInitialized = true
  view : ∀ lba, P lba → t.view lba = s.view lba
  holds : ∀ i lba, t.Holds i lba → s.Holds i lba

/-- The states in which the operations of the cache run. -/
structure Disk.Good (P : Nat → Prop) (s : Disk) : Prop where
  coherent : s.Coherent P
  faultless : s.dev.Faultless
  agrees : s.Agrees P
  init : s.cache.cacheInitialized = true

lemma Disk.Agrees.of_view {s t : Disk} (h : s.Agrees P) (hbackend : t.dev.backend = s.dev.backend)
    (hview : ∀ lba, P lba → t.view lba = s.view lba) : t.Agrees P := by
  intro l l' hl hl' hsame
  rw [Device.sectorOf, Device.sectorOf, hbackend] at hsame
  rw [hview l hl, hview l' hl', h l l' hl hl' hsame]

lemma Disk.Settles.good {s t : Disk} (h : s.Settles P t) (hs : s.Agrees P) : t.Good P :=
  ⟨h.coherent, h.faultless, hs.of_view h.backend h.view, h.init⟩

lemma Disk.Good.settles (h : s.Good P) : s.Settles P s :=
  ⟨h.coherent, h.faultless, rfl, h.init, fun _ _ => rfl, fun _ _ h => h⟩

lemma Disk.Settles.trans {s t u : Disk} (h : s.Settles P t) (h' : t.Settles P u) : s.Settles P u :=
  ⟨h'.coherent, h'.faultless, h'.backend.trans h.backend, h'.init,
    fun lba hlba => (h'.view lba hlba).trans (h.view lba hlba),
    fun i lba hi => h.holds i lba (h'.holds i lba hi)⟩

/-- Writing a line back keeps the view: the device changes only in the sector of the line, and the
LBAs that name it show what is written. -/
lemma flushLine_settles (hs : s.Good P) (idx : Fin 32) : s.Settles P (flushLine s idx) := by
  rw [flushLine]
  split_ifs with hd
  · simp only [Bool.and_eq_true] at hd
    set t : Disk := { s with dev := diskWriteSectorUncached s.dev (s.line idx).lba (s.line idx).data }
    have hdev := hs.faultless.contents_write (s.line idx).lba (s.line idx).data
    have hidx : s.Holds idx (s.line idx).lba := ⟨hd.1, rfl⟩
    have hsame : ∀ lba, P lba → s.dev.sectorOf lba = s.dev.sectorOf (s.line idx).lba →
        s.view lba = (s.line idx).data := by
      intro lba hlba hsector
      rw [hs.agrees lba _ hlba (hs.coherent.dirty idx _ hidx hd.2) hsector,
        Disk.view_of_holds hs.coherent hidx]
    have hholds : ∀ j lba, (t.setLine idx { s.line idx with dirty := false }).Holds j lba ↔
        s.Holds j lba := by
      intro j lba
      by_cases hj : j = idx
      · subst hj
        rw [Disk.holds_setLine_same]
        exact Iff.rfl
      · rw [Disk.holds_setLine_of_ne hj]
        exact Iff.rfl
    have hdata : ∀ j, ((t.setLine idx { s.line idx with dirty := false }).line j).data =
        (s.line j).data := by
      intro j
      by_cases hj : j = idx
      · subst hj; simp
      · rw [Disk.line_setLine_of_ne _ _ hj]
    have hc : (t.setLine idx { s.line idx with dirty := false }).Coherent P := by
      refine ⟨fun i j lba hi hj => hs.coherent.unique i j lba ((hholds i lba).mp hi)
        ((hholds j lba).mp hj), fun j lba hlba hj hclean => ?_, fun j lba hj hdirty => ?_,
        fun h => ?_⟩
      · have hj' := (hholds j lba).mp hj
        rw [hdata, Disk.setLine_dev, hdev, ← Disk.view_of_holds hs.coherent hj']
        split_ifs with hsector
        · exact hsame lba hlba hsector
        · have hji : j ≠ idx := by
            rintro rfl
            exact hsector (congrArg s.dev.sectorOf hj'.2.symm)
          rw [Disk.line_setLine_of_ne _ _ hji] at hclean
          rw [Disk.view_of_holds hs.coherent hj']
          exact hs.coherent.clean j lba hlba hj' hclean
      · by_cases hji : j = idx
        · subst hji
          rw [Disk.line_setLine_same] at hdirty
          cases hdirty
        · rw [Disk.line_setLine_of_ne _ _ hji] at hdirty
          exact hs.coherent.dirty j lba ((hholds j lba).mp hj) hdirty
      · have hinit := hs.init
        exact absurd (h.symm.trans hinit) (by decide)
    refine ⟨hc, hs.faultless.write _ _, diskWriteSectorUncached_backend .., hs.init,
      fun lba hlba => ?_, fun j lba => (hholds j lba).mp⟩
    refine Disk.view_congr hs.coherent hc (fun i hi => ⟨(hholds i lba).mpr hi, hdata i⟩) fun h => ?_
    rw [Disk.view_of_not_holds fun i => (hholds i lba).not.mpr (h i), Disk.setLine_dev, hdev,
      ← Disk.view_of_not_holds h]
    split_ifs with hsector
    · exact (hsame lba hlba hsector).symm
    · rfl
  · exact hs.settles

lemma flushLine_clean (idx : Fin 32) (hv : ((flushLine s idx).line idx).valid = true) :
    ((flushLine s idx).line idx).dirty = false := by
  rw [flushLine] at hv ⊢
  split_ifs at hv ⊢ with hd
  · simp
  · simpa [hv] using hd

lemma Disk.Good.drop_settles (hs : s.Good P) {idx : Fin 32}
    (hc : (s.line idx).valid = true → (s.line idx).dirty = false) :
    s.Settles P (s.setLine idx { s.line idx with valid := false }) := by
  have hco : (s.setLine idx { s.line idx with valid := false }).Coherent P :=
    hs.coherent.setLine hs.init (fun _ => id) (fun _ => Or.inl) (fun h => by simp at h)
      (fun _ h => by simp at h) fun h => by simp at h
  have hholds : ∀ j lba, (s.setLine idx { s.line idx with valid := false }).Holds j lba ↔
      j ≠ idx ∧ s.Holds j lba := by
    intro j lba
    by_cases hj : j = idx
    · subst hj; simp [Disk.holds_setLine_same]
    · simp [Disk.holds_setLine_of_ne hj, hj]
  refine ⟨hco, hs.faultless, rfl, hs.init, fun lba hlba => ?_,
    fun j lba h => ((hholds j lba).mp h).2⟩
  by_cases hi : s.Holds idx lba
  · -- the device already holds what the dropped line held
    rw [Disk.view_of_holds hs.coherent hi, hs.coherent.clean idx lba hlba hi (hc hi.1),
      Disk.view_of_not_holds]
    · rfl
    · intro j hj
      obtain ⟨hne, hj'⟩ := (hholds j lba).mp hj
      exact hne (hs.coherent.unique j idx lba hj' hi)
  · refine Disk.view_congr hs.coherent hco (fun j hj => ?_) fun h => ?_
    · have hne : j ≠ idx := fun h => hi (h ▸ hj)
      exact ⟨(hholds j lba).mpr ⟨hne, hj⟩, by rw [Disk.line_setLine_of_ne _ _ hne]⟩
    · exact Disk.view_of_not_holds fun j hj => h j ((hholds j lba).mp hj).2

lemma evictLine_settles (hs : s.Good P) (idx : Fin 32) :
    s.Settles P (evictLine s idx) ∧ ((evictLine s idx).line idx).valid = false := by
  have hf := flushLine_settles hs idx
  refine ⟨hf.trans ((hf.good hs.agrees).drop_settles (flushLine_clean idx)), ?_⟩
  simp [evictLine]

lemma Disk.Good.ref_settles (hs : s.Good P) (idx : Fin 32) (r : Bool) :
    s.Settles P (s.setLine idx { s.line idx with ref := r }) := by
  have hholds : ∀ j lba, (s.setLine idx { s.line idx with ref := r }).Holds j lba ↔
      s.Holds j lba := by
    intro j lba
    by_cases hj : j = idx
    · subst hj
      rw [Disk.holds_setLine_same]
      exact Iff.rfl
    · exact Disk.holds_setLine_of_ne hj
  have hdata : ∀ j, ((s.setLine idx { s.line idx with ref := r }).line j).data =
      (s.line j).data := by
    intro j
    by_cases hj : j = idx
    · subst hj; simp
    · rw [Disk.line_setLine_of_ne _ _ hj]
  have hco : (s.setLine idx { s.line idx with ref := r }).Coherent P := by
    refine hs.coherent.setLine hs.init (fun _ => id) (fun _ => Or.inl) (fun hv j hj hh => ?_)
      (fun hlba hv hd => ?_) fun hv hd => ?_
    · exact hj (hs.coherent.unique j idx _ hh ⟨hv, rfl⟩)
    · exact hs.coherent.clean idx _ hlba ⟨hv, rfl⟩ hd
    · exact hs.coherent.dirty idx _ ⟨hv, rfl⟩ hd
  refine ⟨hco, hs.faultless, rfl, hs.init, fun lba _ => ?_, fun j lba => (hholds j lba).mp⟩
  exact Disk.view_congr hs.coherent hco (fun j hj => ⟨(hholds j lba).mpr hj, hdata j⟩)
    fun h => Disk.view_of_not_holds fun j => (hholds j lba).not.mpr (h j)

lemma Disk.Good.clockHand_settles (hs : s.Good P) (h : Fin 32) :
    s.Settles P { s with cache := { s.cache with clockHand := h } } :=
  ⟨⟨hs.coherent.unique, hs.coherent.clean, hs.coherent.dirty, hs.coherent.fresh⟩, hs.faultless,
    rfl, hs.init, fun _ _ => rfl, fun _ _ h => h⟩

lemma pickVictimLoop_settles (fuel : Nat) (hs : s.Good P) : s.Settles P (pickVictimLoop fuel s).1 ∧
      ((pickVictimLoop fuel s).1.line (pickVictimLoop fuel s).2).valid = false := by
  induction fuel generalizing s with
  | zero => exact evictLine_settles hs _
  | succ fuel ih =>
    rw [pickVictimLoop]
    set idx := s.cache.clockHand
    have ht := hs.clockHand_settles (idx + 1)
    have hgood := ht.good hs.agrees
    split_ifs with hv hr
    · exact ⟨ht, by simpa using hv⟩
    · have hr' := hgood.ref_settles idx false
      obtain ⟨h, hinv⟩ := ih (hr'.good hgood.agrees)
      exact ⟨(ht.trans hr').trans h, hinv⟩
    · obtain ⟨h, hinv⟩ := evictLine_settles hgood idx
      exact ⟨ht.trans h, hinv⟩

lemma pickVictimLine_settles (hs : s.Good P) : s.Settles P (pickVictimLine s).1 ∧
      ((pickVictimLine s).1.line (pickVictimLine s).2).valid = false :=
  pickVictimLoop_settles _ hs

/-- A state the cache may be entered in: coherent over a device that does not fail. -/
structure Disk.ReadyOn (P : Nat → Prop) (s : Disk) : Prop where
  coherent : s.Coherent P
  faultless : s.dev.Faultless
  agrees : s.Agrees P

/-- A state of the cache over a device that takes whole LBAs. -/
structure Disk.Ready (s : Disk) : Prop where
  coherent : s.Coherent fun _ => True
  healthy : s.dev.Healthy

lemma Disk.agrees_of_whole (h : ∀ lba, P lba → s.dev.sectorOf lba = lba) : s.Agrees P := by
  intro l l' hl hl' hsame
  rw [h l hl, h l' hl'] at hsame
  rw [hsame]

lemma Disk.Ready.on (h : s.Ready) : s.ReadyOn fun _ => True :=
  ⟨h.coherent, h.healthy.toFaultless, Disk.agrees_of_whole fun lba _ => h.healthy.whole lba⟩

lemma Disk.Ready.sectors_eq_view (hs : s.Ready) {lba : Nat}
    (h : ∀ i, s.Holds i lba → (s.line i).dirty = false) : s.dev.sectors lba = s.view lba := by
  rw [← hs.healthy.contents, hs.coherent.contents_eq_view trivial h]

lemma Disk.not_holds_boot (dev : Device) (i : Fin 32) (lba : Nat) :
    ¬ (Disk.boot dev).Holds i lba := by
  simp [Disk.Holds, Disk.boot, PageCache.boot]

lemma Disk.coherent_boot (P : Nat → Prop) (dev : Device) : (Disk.boot dev).Coherent P :=
  ⟨fun i _ lba hi => absurd hi (Disk.not_holds_boot dev i lba),
    fun i lba _ hi => absurd hi (Disk.not_holds_boot dev i lba),
    fun i lba hi => absurd hi (Disk.not_holds_boot dev i lba), fun _ _ => rfl⟩

lemma Disk.ready_boot {dev : Device} (h : dev.Healthy) : (Disk.boot dev).Ready :=
  ⟨Disk.coherent_boot _ dev, h⟩

lemma pageCacheInit_settles (hs : s.ReadyOn P) : s.Settles P (pageCacheInit s) := by
  rw [pageCacheInit]
  split_ifs with hi
  · exact ⟨hs.coherent, hs.faultless, rfl, hi, fun _ _ => rfl, fun _ _ h => h⟩
  · have hnone : ∀ i lba, ¬ s.Holds i lba := by
      intro i lba h
      have := hs.coherent.fresh (by simpa using hi) i
      exact absurd (h.1.symm.trans this) (by decide)
    have hnone' : ∀ i lba, ¬ Disk.Holds { s with cache :=
        { lines := fun i => { s.line i with valid := false, dirty := false, ref := false, lba := 0 }
          clockHand := 0
          cacheInitialized := true } } i lba := by
      intro i lba h
      exact absurd h.1 (by simp)
    refine ⟨⟨fun i _ lba h => absurd h (hnone' i lba), fun i lba _ h => absurd h (hnone' i lba),
      fun i lba h => absurd h (hnone' i lba), fun h => by cases h⟩, hs.faultless, rfl, rfl,
      fun lba _ => ?_, fun i lba h => absurd h (hnone' i lba)⟩
    rw [Disk.view_of_not_holds (hnone' · lba), Disk.view_of_not_holds (hnone · lba)]

/-! ### Sector access -/

/-- What is put at an LBA is what the other LBAs of its sector show. -/
lemma Disk.Agrees.update {s t : Disk} (h : s.Agrees P) (hbackend : t.dev.backend = s.dev.backend)
    {lba : Nat} {data : Sector} (hview : t.view = update s.view lba data)
    (hQ : ∀ l, Q l → P l ∨ l = lba)
    (hsame : ∀ l, P l → Q lba → l ≠ lba → s.dev.sectorOf l = s.dev.sectorOf lba → s.view l = data) :
    t.Agrees Q := by
  intro l l' hl hl' hsector
  rw [Device.sectorOf, Device.sectorOf, hbackend] at hsector
  rw [hview]
  by_cases hlba : l = lba <;> by_cases hlba' : l' = lba
  · rw [hlba, hlba']
  · subst hlba
    rw [update_self, update_of_ne hlba']
    exact (hsame l' ((hQ l' hl').resolve_right hlba') hl hlba' hsector.symm).symm
  · subst hlba'
    rw [update_self, update_of_ne hlba]
    exact hsame l ((hQ l hl).resolve_right hlba) hl' hlba hsector
  · rw [update_of_ne hlba, update_of_ne hlba']
    exact h l l' ((hQ l hl).resolve_right hlba) ((hQ l' hl').resolve_right hlba') hsector

section Access

variable {s : Disk} {idx : Fin 32} {lba : Nat} {data : Sector}

/-- A line that holds no other sector takes one. -/
lemma Disk.Good.view_setLine (hs : s.Good P) {l : CacheLine} (hco : (s.setLine idx l).Coherent Q)
    (hi : (s.setLine idx l).Holds idx lba) (hold : ∀ l' ≠ lba, ¬ s.Holds idx l') :
    (s.setLine idx l).view = update s.view lba l.data := by
  funext l'
  by_cases hl : l' = lba
  · subst hl
    rw [update_self, Disk.view_of_holds hco hi]
    simp
  · rw [update_of_ne hl]
    have hidx : ∀ j, s.Holds j l' → j ≠ idx := fun j hj h => hold l' hl (h ▸ hj)
    refine Disk.view_congr hs.coherent hco (fun j hj => ?_) fun h => ?_
    · exact ⟨(Disk.holds_setLine_of_ne (hidx j hj)).mpr hj,
        by rw [Disk.line_setLine_of_ne _ _ (hidx j hj)]⟩
    · refine Disk.view_of_not_holds fun j hj => ?_
      by_cases hji : j = idx
      · subst hji
        exact hl (hj.2.symm.trans hi.2)
      · exact h j ((Disk.holds_setLine_of_ne hji).mp hj)

lemma Disk.Good.fill (hs : s.Good P) (hv : (s.line idx).valid = false) (hno : ∀ i, ¬ s.Holds i lba)
    (dirty : Bool) (hPQ : ∀ l, P l → Q l) (hQ : ∀ l, Q l → P l ∨ l = lba)
    (hclean : dirty = false → data = s.dev.contents lba) (hdirty : dirty = true → Q lba)
    (hsame : ∀ l, P l → Q lba → l ≠ lba → s.dev.sectorOf l = s.dev.sectorOf lba → s.view l = data) :
    (s.setLine idx ⟨true, dirty, true, lba, data⟩).Good Q ∧
      (s.setLine idx ⟨true, dirty, true, lba, data⟩).view = update s.view lba data := by
  have hco : (s.setLine idx ⟨true, dirty, true, lba, data⟩).Coherent Q :=
    hs.coherent.setLine hs.init hPQ (fun l hl => (hQ l hl).imp_right fun h => ⟨rfl, h⟩)
      (fun _ j _ => hno j) (fun _ _ => hclean) fun _ => hdirty
  have hline : (s.setLine idx ⟨true, dirty, true, lba, data⟩).Holds idx lba :=
    Disk.holds_setLine_same.mpr ⟨rfl, rfl⟩
  have hview := hs.view_setLine hco hline fun l' _ h => absurd (h.1.symm.trans hv) (by decide)
  exact ⟨⟨hco, hs.faultless, hs.agrees.update rfl hview hQ hsame, hs.init⟩, hview⟩

lemma Disk.Good.overwrite (hs : s.Good P) (hi : s.Holds idx lba) (hPQ : ∀ l, P l → Q l)
    (hQ : ∀ l, Q l → P l ∨ l = lba) (hlba : Q lba)
    (hsame : ∀ l, P l → Q lba → l ≠ lba → s.dev.sectorOf l = s.dev.sectorOf lba → s.view l = data) :
    (s.setLine idx { s.line idx with data := data, dirty := true, ref := true }).Good Q ∧
      (s.setLine idx { s.line idx with data := data, dirty := true, ref := true }).view =
        update s.view lba data := by
  set l : CacheLine := { s.line idx with data := data, dirty := true, ref := true }
  have hlineLba : l.lba = lba := hi.2
  have hco : (s.setLine idx l).Coherent Q := by
    refine hs.coherent.setLine hs.init hPQ (fun l' hl' => (hQ l' hl').imp_right fun h => ?_)
      (fun hv j hj hh => ?_) (fun _ _ h => by cases h) fun _ _ => hlineLba ▸ hlba
    · exact ⟨hi.1, h.trans hlineLba.symm⟩
    · exact hj (hs.coherent.unique j idx _ hh ⟨hv, rfl⟩)
  have hsameLine : (s.setLine idx l).Holds idx lba := Disk.holds_setLine_same.mpr hi
  have hview := hs.view_setLine hco hsameLine fun l' hne h => hne (h.2.symm.trans hi.2)
  exact ⟨⟨hco, hs.faultless, hs.agrees.update rfl hview hQ hsame, hs.init⟩, hview⟩

end Access

variable {i : Fin 32}

/-- After an operation of the cache the kernel sees `view`. -/
structure Disk.Shows (P : Nat → Prop) (s t : Disk) (view : Nat → Sector) : Prop where
  coherent : t.Coherent P
  faultless : t.dev.Faultless
  agrees : t.Agrees P
  backend : t.dev.backend = s.dev.backend
  view : ∀ lba, P lba → t.view lba = view lba

lemma Disk.Shows.ready {s t : Disk} {view : Nat → Sector} (h : s.Shows (fun _ => True) t view)
    (hs : s.Ready) : t.Ready ∧ t.view = view := by
  refine ⟨⟨h.coherent, h.faultless, fun lba => ?_⟩, funext fun lba => h.view lba trivial⟩
  rw [Device.sectorOf, h.backend]
  exact hs.healthy.whole lba

/-- A read through the cache returns the view and does not change it. -/
lemma pageCacheReadSector_shows {s : Disk} (hs : s.ReadyOn P) (lba : Nat) :
    s.Shows P (pageCacheReadSector s lba).1 s.view ∧
      (P lba → (pageCacheReadSector s lba).2 = some (s.view lba)) := by
  have h0 := pageCacheInit_settles hs
  have hgood := h0.good hs.agrees
  rw [pageCacheReadSector]
  cases hf : findLine (pageCacheInit s) lba with
  | some idx =>
    have h1 := h0.trans (hgood.ref_settles idx true)
    refine ⟨⟨h1.coherent, h1.faultless, (h1.good hs.agrees).agrees, h1.backend, h1.view⟩,
      fun hlba => ?_⟩
    simp only [← h0.view lba hlba, Disk.view_of_holds h0.coherent (findLine_eq_some hf)]
  | none =>
    obtain ⟨h1, hv⟩ := pickVictimLine_settles hgood
    have hno : ∀ i, ¬ (pickVictimLine (pageCacheInit s)).1.Holds i lba := fun i hi =>
      findLine_eq_none_iff.mp hf i (h1.holds i lba hi)
    have h2 := h0.trans h1
    have hgood' := h2.good hs.agrees
    simp only [h1.faultless.read lba]
    obtain ⟨hg, hfill⟩ := hgood'.fill hv hno false (fun _ => id) (fun _ => Or.inl) (fun _ => rfl)
      (fun h => by cases h) fun l hl hlba _ hsector => by
        rw [← Disk.view_of_not_holds hno, hgood'.agrees l lba hl hlba hsector]
    rw [← Disk.view_of_not_holds hno, Function.update_eq_self] at hfill
    refine ⟨⟨hg.coherent, hg.faultless, hg.agrees, h2.backend, fun l hl => ?_⟩, fun hlba => ?_⟩
    · rw [← Disk.view_of_not_holds hno, hfill, h2.view l hl]
    · rw [← h2.view lba hlba, Disk.view_of_not_holds hno]

/-- A write through the cache changes the view at its LBA only. -/
lemma pageCacheWriteSector_shows {s : Disk} (hs : s.ReadyOn P) {lba : Nat} {buffer : Sector}
    (hPQ : ∀ l, P l → Q l) (hQ : ∀ l, Q l → P l ∨ l = lba) (hlba : Q lba)
    (hsame : ∀ l, P l → l ≠ lba → s.dev.sectorOf l = s.dev.sectorOf lba → s.view l = buffer) :
    s.Shows Q (pageCacheWriteSector s lba buffer) (update s.view lba buffer) := by
  have h0 := pageCacheInit_settles hs
  have hgood := h0.good hs.agrees
  have hsame' : ∀ {t : Disk}, s.Settles P t → ∀ l, P l → Q lba → l ≠ lba →
      t.dev.sectorOf l = t.dev.sectorOf lba → t.view l = buffer := by
    intro t ht l hl _ hne hsector
    rw [Device.sectorOf, Device.sectorOf, ht.backend] at hsector
    rw [ht.view l hl, hsame l hl hne hsector]
  have hupdate : ∀ {t u : Disk}, s.Settles P t → u.view = update t.view lba buffer → ∀ l, Q l →
      u.view l = update s.view lba buffer l := by
    intro t u ht hu l hl
    rw [hu]
    by_cases hne : l = lba
    · subst hne
      rw [update_self, update_self]
    · rw [update_of_ne hne, update_of_ne hne, ht.view l ((hQ l hl).resolve_right hne)]
  rw [pageCacheWriteSector]
  cases hf : findLine (pageCacheInit s) lba with
  | some idx =>
    obtain ⟨hg, hv⟩ := hgood.overwrite (findLine_eq_some hf) hPQ hQ hlba (hsame' h0)
    exact ⟨hg.coherent, hg.faultless, hg.agrees, h0.backend, hupdate h0 hv⟩
  | none =>
    obtain ⟨h1, hv⟩ := pickVictimLine_settles hgood
    have hno : ∀ i, ¬ (pickVictimLine (pageCacheInit s)).1.Holds i lba := fun i hi =>
      findLine_eq_none_iff.mp hf i (h1.holds i lba hi)
    have h2 := h0.trans h1
    obtain ⟨hg, hfill⟩ := (h2.good hs.agrees).fill hv hno true hPQ hQ (fun h => by cases h)
      (fun _ => hlba) (hsame' h2)
    exact ⟨hg.coherent, hg.faultless, hg.agrees, h2.backend, hupdate h2 hfill⟩

/-- A read through the cache returns the view and does not change it. -/
theorem pageCacheReadSector_spec {s : Disk} (hs : s.Ready) (lba : Nat) :
    (pageCacheReadSector s lba).1.Ready ∧ (pageCacheReadSector s lba).1.view = s.view ∧
      (pageCacheReadSector s lba).2 = some (s.view lba) := by
  obtain ⟨hshows, hread⟩ := pageCacheReadSector_shows hs.on lba
  obtain ⟨hready, hview⟩ := hshows.ready hs
  exact ⟨hready, hview, hread trivial⟩

/-- A write through the cache changes the view at its LBA only. -/
theorem pageCacheWriteSector_spec {s : Disk} (hs : s.Ready) (lba : Nat) (buffer : Sector) :
    (pageCacheWriteSector s lba buffer).Ready ∧
      (pageCacheWriteSector s lba buffer).view = update s.view lba buffer := by
  refine Disk.Shows.ready ?_ hs
  refine pageCacheWriteSector_shows hs.on (fun _ => id) (fun _ => Or.inl) trivial
    fun l _ hne hsector => ?_
  rw [hs.healthy.whole, hs.healthy.whole] at hsector
  exact absurd hsector hne

lemma diskReadSector_spec {s : Disk} (hs : s.Ready) (lba : Nat) (buffer : Sector) :
    (diskReadSector s lba buffer).1.Ready ∧ (diskReadSector s lba buffer).1.view = s.view ∧
      (diskReadSector s lba buffer).2 = s.view lba := by
  obtain ⟨hready, hv, hd⟩ := pageCacheReadSector_spec hs lba
  exact ⟨hready, hv, by rw [diskReadSector, hd, Option.getD_some]⟩

lemma flushLine_dirty {s : Disk} {i j : Fin 32} (h : ((flushLine s j).line i).dirty = true) :
    (s.line i).dirty = true := by
  rw [flushLine] at h
  split_ifs at h
  · by_cases hij : i = j
    · subst hij; simp at h
    · rwa [Disk.line_setLine_of_ne _ _ hij] at h
  · exact h

lemma flushLine_valid (s : Disk) (i j : Fin 32) :
    ((flushLine s j).line i).valid = (s.line i).valid := by
  rw [flushLine]
  split_ifs
  · by_cases hij : i = j
    · subst hij; simp
    · rw [Disk.line_setLine_of_ne _ _ hij]
  · rfl

lemma foldl_flushLine_settles {s : Disk} (hs : s.Good P) (is : List (Fin 32)) :
    s.Settles P (is.foldl flushLine s) := by
  induction is generalizing s with
  | nil => exact hs.settles
  | cons i is ih =>
    have h := flushLine_settles hs i
    exact h.trans (ih (h.good hs.agrees))

lemma foldl_flushLine_dirty {s : Disk} {is : List (Fin 32)}
    (h : ((is.foldl flushLine s).line i).dirty = true) : (s.line i).dirty = true := by
  induction is generalizing s with
  | nil => exact h
  | cons j is ih => exact flushLine_dirty (ih h)

lemma foldl_flushLine_valid (s : Disk) (is : List (Fin 32)) (i : Fin 32) :
    ((is.foldl flushLine s).line i).valid = (s.line i).valid := by
  induction is generalizing s with
  | nil => rfl
  | cons j is ih => rw [List.foldl_cons, ih, flushLine_valid]

lemma foldl_flushLine_clean {s : Disk} {is : List (Fin 32)} (hi : i ∈ is)
    (hv : (s.line i).valid = true) : ((is.foldl flushLine s).line i).dirty = false := by
  induction is generalizing s with
  | nil => cases hi
  | cons j is ih =>
    rcases List.mem_cons.mp hi with rfl | hi
    · have hc := flushLine_clean (s := s) i (by rwa [flushLine_valid])
      by_contra hd
      exact absurd (hc.symm.trans (foldl_flushLine_dirty (by simpa using hd))) (by decide)
    · exact ih hi (by rwa [flushLine_valid])

lemma pageCacheFlushAll_clean (s : Disk) (hv : ((pageCacheFlushAll s).line i).valid = true) :
    ((pageCacheFlushAll s).line i).dirty = false := by
  rw [pageCacheFlushAll] at hv ⊢
  rw [foldl_flushLine_valid] at hv
  exact foldl_flushLine_clean (List.mem_finRange i) hv

/-- A flush keeps the view and leaves it on the device. -/
lemma pageCacheFlushAll_shows {s : Disk} (hs : s.ReadyOn P) :
    s.Shows P (pageCacheFlushAll s) s.view ∧
      ∀ lba, P lba → (pageCacheFlushAll s).dev.contents lba = s.view lba := by
  have h0 := pageCacheInit_settles hs
  have h1 := foldl_flushLine_settles (h0.good hs.agrees) (List.finRange 32)
  rw [← pageCacheFlushAll] at h1
  have h2 := h0.trans h1
  refine ⟨⟨h2.coherent, h2.faultless, (h2.good hs.agrees).agrees, h2.backend, h2.view⟩,
    fun lba hlba => ?_⟩
  rw [← h2.view lba hlba, h2.coherent.contents_eq_view hlba fun i hi =>
    pageCacheFlushAll_clean s hi.1]

/-- A flush keeps the view and leaves it on the device. -/
theorem pageCacheFlushAll_spec {s : Disk} (hs : s.Ready) :
    (pageCacheFlushAll s).Ready ∧ (pageCacheFlushAll s).view = s.view ∧
      (pageCacheFlushAll s).dev.sectors = s.view := by
  obtain ⟨hshows, hflushed⟩ := pageCacheFlushAll_shows hs.on
  obtain ⟨hready, hview⟩ := hshows.ready hs
  refine ⟨hready, hview, ?_⟩
  rw [← hready.healthy.contents]
  exact funext fun lba => hflushed lba trivial

inductive CacheOp where
  | read (lba : Nat)
  | write (lba : Nat) (buffer : Sector)
  | flushAll

/-- What an operation of the cache answers. -/
inductive DiskAnswer where
  | sector (data : Sector)
  | ok
  | error

def DiskAnswer.ofRead : Option Sector → DiskAnswer
  | some data => .sector data
  | none => .error

/-- One call of the page cache interface. -/
def cacheStep (s : Disk) : CacheOp → Disk × DiskAnswer
  | .read lba =>
    ((pageCacheReadSector s lba).1, .ofRead (pageCacheReadSector s lba).2)
  | .write lba buffer => (pageCacheWriteSector s lba buffer, .ok)
  | .flushAll => (pageCacheFlushAll s, .ok)

/-- The flat disk: a map from LBAs to contents. A read answers the latest write to its LBA, or
what the disk held at first. -/
def flatStep (f : Nat → Sector) : CacheOp → (Nat → Sector) × DiskAnswer
  | .read lba => (f, .sector (f lba))
  | .write lba buffer => (Function.update f lba buffer, .ok)
  | .flushAll => (f, .ok)

/-- Every operation of the cache over a disk that never fails is that of the flat disk. -/
theorem cacheStep_refines :
    Machine.Refines (fun _ _ => True) cacheStep Disk.Ready Disk.view flatStep where
  inv s o hs _ := by
    cases o <;> simp only [cacheStep]
    case read lba => exact (pageCacheReadSector_spec hs lba).1
    case write lba buffer => exact (pageCacheWriteSector_spec hs lba buffer).1
    case flushAll => exact (pageCacheFlushAll_spec hs).1
  state s o hs _ := by
    cases o <;> simp only [cacheStep, flatStep]
    case read lba => exact (pageCacheReadSector_spec hs lba).2.1
    case write lba buffer => exact (pageCacheWriteSector_spec hs lba buffer).2
    case flushAll => exact (pageCacheFlushAll_spec hs).2.1
  output s o hs _ := by
    cases o <;> simp only [cacheStep, flatStep]
    case read lba => rw [(pageCacheReadSector_spec hs lba).2.2, DiskAnswer.ofRead]

lemma Disk.view_boot (f : Nat → Sector) : (Disk.boot (Device.ofSectors f)).view = f := by
  funext lba
  rw [Disk.view_of_not_holds fun i => Disk.not_holds_boot _ i lba]
  rfl

/-- The page cache over a disk that never fails is a flat disk: every answer of every run is the
flat one, no LBA is ever in two valid lines, and a flush brings the device to the flat state. -/
theorem pageCache_refines_flatDisk (f : Nat → Sector) (ops : List CacheOp) :
    Machine.outputs cacheStep (Disk.boot (Device.ofSectors f)) ops =
        Machine.outputs flatStep f ops ∧
      (∀ i j lba, (Machine.run cacheStep (Disk.boot (Device.ofSectors f)) ops).Holds i lba →
        (Machine.run cacheStep (Disk.boot (Device.ofSectors f)) ops).Holds j lba → i = j) ∧
      ∀ lba, (pageCacheFlushAll
          (Machine.run cacheStep (Disk.boot (Device.ofSectors f)) ops)).dev.sectors lba =
        Machine.run flatStep f ops lba := by
  have h0 : (Disk.boot (Device.ofSectors f)).Ready :=
    Disk.ready_boot (Device.healthy_ofSectors f)
  have hall : Machine.Runs (fun _ _ => True) cacheStep (Disk.boot (Device.ofSectors f)) ops :=
    Machine.Runs.of_forall (fun _ _ => trivial) _ _
  have hready := cacheStep_refines.run_inv h0 hall
  have hview := cacheStep_refines.run_view h0 hall
  have hout := cacheStep_refines.outputs_eq h0 hall
  rw [Disk.view_boot] at hview hout
  refine ⟨hout, hready.coherent.unique, fun lba => ?_⟩
  rw [(pageCacheFlushAll_spec hready).2.2, hview]

end NeuroSpark
