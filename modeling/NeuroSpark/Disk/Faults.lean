import NeuroSpark.Disk.Coherence

/-!
# The page cache over a device that fails

`disk_write_sector_uncached` has no result: when the device is not there or a command fails, it
returns without having written. `flush_line` clears the dirty flag all the same, so what it was to
write back is lost unless the device holds it already. This file says for which runs nothing is
lost, with a device whose faults change in any way between the operations.
-/

namespace NeuroSpark

open Function (update update_self update_of_ne)

/-! ### The victim of the clock -/

/-- The line `k` places after a position of the clock hand. -/
def handAt (h : Fin 32) (k : Nat) : Fin 32 := h + Fin.ofNat 32 k

lemma handAt_zero (h : Fin 32) : handAt h 0 = h := by
  simp [handAt]

lemma handAt_succ (h : Fin 32) (k : Nat) : handAt h (k + 1) = handAt h k + 1 := by
  simp only [handAt, Fin.ext_iff, Fin.val_add, Fin.val_ofNat, Fin.val_one]
  omega

lemma handAt_full (h : Fin 32) : handAt h 32 = h := by
  simp [handAt]

lemma handAt_ne (h : Fin 32) {j k : Nat} (hjk : j < k) (hk : k < 32) : handAt h k ≠ handAt h j := by
  intro heq
  simp only [handAt, Fin.ext_iff, Fin.val_add, Fin.val_ofNat] at heq
  omega

/-- A line the clock passes by: it is valid and was referenced since the hand was there last. -/
def Disk.Referenced (s : Disk) (i : Fin 32) : Bool := (s.line i).valid && (s.line i).ref

/-- The line `pick_victim_line` settles on: the first one from the clock hand on that is not passed
by, and the one under the hand when all are. -/
def clockVictim (s : Disk) : Fin 32 :=
  (((List.range 32).map (handAt s.cache.clockHand)).find? fun i => !s.Referenced i).getD
    s.cache.clockHand

lemma pickVictimLoop_pass (m fuel : Nat) {s : Disk} (hm : m ≤ 32)
    (href : ∀ k < m, s.Referenced (handAt s.cache.clockHand k) = true) :
    ∃ t, pickVictimLoop (fuel + m) s = pickVictimLoop fuel t ∧
      t.cache.clockHand = handAt s.cache.clockHand m ∧
      (∀ k, m ≤ k → k < 32 →
        t.line (handAt s.cache.clockHand k) = s.line (handAt s.cache.clockHand k)) ∧
      (0 < m → (t.line s.cache.clockHand).ref = false) := by
  induction m generalizing fuel with
  | zero => exact ⟨s, rfl, (handAt_zero _).symm, fun _ _ _ => rfl, fun h => absurd h (lt_irrefl 0)⟩
  | succ m ih =>
    obtain ⟨t, hloop, hhand, hlines, hfirst⟩ := ih (fuel + 1) (Nat.le_of_succ_le hm)
      fun k hk => href k (Nat.lt_succ_of_lt hk)
    have hat : (t.line t.cache.clockHand).valid = true ∧ (t.line t.cache.clockHand).ref = true := by
      have h := href m (Nat.lt_succ_self m)
      rw [Disk.Referenced, Bool.and_eq_true] at h
      rw [hhand, hlines m le_rfl hm]
      exact h
    set u : Disk := { t with cache := { t.cache with clockHand := t.cache.clockHand + 1 } }
    refine ⟨u.setLine t.cache.clockHand { u.line t.cache.clockHand with ref := false }, ?_, ?_,
      ?_, ?_⟩
    · rw [Nat.add_comm m 1, ← Nat.add_assoc, hloop, pickVictimLoop, if_neg, if_pos]
      · exact hat.2
      · simpa using hat.1
    · rw [handAt_succ, ← hhand]
      rfl
    · intro k hk hk'
      rw [Disk.line_setLine_of_ne, ← hlines k (Nat.le_of_succ_le hk) hk']
      rw [hhand]
      exact handAt_ne _ hk hk'
    · intro _
      by_cases h0 : s.cache.clockHand = t.cache.clockHand
      · rw [h0, Disk.line_setLine_same]
      · rw [Disk.line_setLine_of_ne _ _ h0]
        apply hfirst
        rw [Nat.pos_iff_ne_zero]
        rintro rfl
        exact h0 (hhand.trans (handAt_zero _)).symm

lemma pickVictimLoop_stop (fuel : Nat) {s : Disk} (h : s.Referenced s.cache.clockHand = false) :
    (pickVictimLoop (fuel + 1) s).2 = s.cache.clockHand := by
  rw [Disk.Referenced, Bool.and_eq_false_iff] at h
  rw [pickVictimLoop]
  rcases h with h | h
  · rw [if_pos]
    simpa using h
  · by_cases hv : (s.line s.cache.clockHand).valid = true
    · rw [if_neg (by simpa using hv), if_neg (by simpa using h)]
    · rw [if_pos]
      simpa using hv

lemma pickVictimLine_snd (s : Disk) : (pickVictimLine s).2 = clockVictim s := by
  rw [pickVictimLine, clockVictim, List.find?_map]
  cases hfind : (List.range 32).find? ((fun i => !s.Referenced i) ∘ handAt s.cache.clockHand) with
  | none =>
    rw [List.find?_eq_none] at hfind
    obtain ⟨t, hloop, hhand, -, hfirst⟩ := pickVictimLoop_pass 32 32 (s := s) le_rfl fun k hk => by
      simpa using hfind k (List.mem_range.mpr hk)
    rw [handAt_full] at hhand
    rw [hloop, pickVictimLoop_stop 31, hhand]
    · rfl
    · rw [Disk.Referenced, hhand, hfirst (by decide), Bool.and_false]
  | some k =>
    obtain ⟨hstop, hk, hbefore⟩ := List.find?_range_eq_some.mp hfind
    rw [List.mem_range] at hk
    obtain ⟨t, hloop, hhand, hlines, -⟩ := pickVictimLoop_pass k (64 - k) (s := s) hk.le
      fun j hj => by simpa using hbefore j hj
    have hfuel : 64 - k = 63 - k + 1 := by omega
    have hrounds : 32 * 2 = 64 - k + k := by omega
    rw [hrounds, hloop, hfuel, pickVictimLoop_stop, hhand]
    · rfl
    · have hsame : t.Referenced t.cache.clockHand = s.Referenced (handAt s.cache.clockHand k) := by
        rw [Disk.Referenced, hhand, hlines k le_rfl hk, Disk.Referenced]
      rw [hsame]
      simpa only [Function.comp_apply, Bool.not_eq_true'] using hstop

/-! ### A device that recovers -/

/-- The same device when it does not fail any more. -/
def Device.recover (d : Device) : Device :=
  { d with readFault := fun _ => false, writeFault := fun _ => false }

lemma Device.recover_faultless (d : Device) : d.recover.Faultless := ⟨fun _ => rfl, fun _ => rfl⟩

def Disk.recover (s : Disk) : Disk := { s with dev := s.dev.recover }

variable {P Q : Nat → Prop} {s : Disk} {i : Fin 32}

lemma Disk.recover_view (s : Disk) : s.recover.view = s.view := rfl

lemma Disk.recover_coherent : s.recover.Coherent P ↔ s.Coherent P :=
  ⟨fun h => ⟨h.unique, h.clean, h.dirty, h.fresh⟩, fun h => ⟨h.unique, h.clean, h.dirty, h.fresh⟩⟩

lemma Disk.Coherent.recover_ready (hs : s.Coherent P) (hagrees : s.Agrees P) :
    s.recover.ReadyOn P :=
  ⟨Disk.recover_coherent.mpr hs, s.dev.recover_faultless, hagrees⟩

lemma diskWriteSectorUncached_recover {d : Device} {lba : Nat} {buffer : Sector}
    (h : d.writeFault (d.sectorOf lba) = false ∨ d.contents lba = buffer) :
    (diskWriteSectorUncached d lba buffer).recover =
      diskWriteSectorUncached d.recover lba buffer := by
  rw [diskWriteSectorUncached, diskWriteSectorUncached]
  cases hf : d.writeFault (d.sectorOf lba) with
  | false => rfl
  | true =>
    have hheld : d.contents lba = buffer := h.resolve_left (by simp [hf])
    have hsame : update d.sectors (d.sectorOf lba) buffer = d.sectors := by
      rw [← hheld, Device.contents, Function.update_eq_self]
    exact congrArg (fun sectors => ({ d.recover with sectors := sectors } : Device)) hsame.symm

/-- Line `i` may be written back: the write does not fail, or the device holds the data already. -/
def Disk.WritesBack (s : Disk) (i : Fin 32) : Prop :=
  (s.line i).valid = true → (s.line i).dirty = true →
    s.dev.writeFault (s.dev.sectorOf (s.line i).lba) = false ∨
      s.dev.contents (s.line i).lba = (s.line i).data

lemma flushLine_recover (h : s.WritesBack i) : (flushLine s i).recover = flushLine s.recover i := by
  rw [flushLine, flushLine]
  by_cases hd : ((s.line i).valid && (s.line i).dirty) = true
  · have hd' : ((s.recover.line i).valid && (s.recover.line i).dirty) = true := hd
    rw [if_pos hd, if_pos hd']
    rw [Bool.and_eq_true] at hd
    have hdev := diskWriteSectorUncached_recover (h hd.1 hd.2)
    exact congrArg (fun d => ({ s with dev := d } : Disk).setLine i
      { s.line i with dirty := false }) hdev
  · have hd' : ¬ ((s.recover.line i).valid && (s.recover.line i).dirty) = true := hd
    rw [if_neg hd, if_neg hd']

lemma evictLine_recover (h : s.WritesBack i) : (evictLine s i).recover = evictLine s.recover i := by
  rw [evictLine, evictLine, ← flushLine_recover h]
  rfl

lemma Disk.writesBack_setLine_ref {i j : Fin 32} (r : Bool) (h : s.WritesBack j) :
    (s.setLine i { s.line i with ref := r }).WritesBack j := by
  by_cases hj : j = i
  · subst hj
    rw [Disk.WritesBack, Disk.line_setLine_same]
    exact h
  · rw [Disk.WritesBack, Disk.line_setLine_of_ne _ _ hj]
    exact h

lemma pickVictimLoop_recover (fuel : Nat) (h : s.WritesBack (pickVictimLoop fuel s).2) :
    pickVictimLoop fuel s.recover =
      ((pickVictimLoop fuel s).1.recover, (pickVictimLoop fuel s).2) := by
  induction fuel generalizing s with
  | zero =>
    have hevict := evictLine_recover (i := s.cache.clockHand) h
    exact Prod.ext hevict.symm rfl
  | succ fuel ih =>
    set i := s.cache.clockHand
    set t : Disk := { s with cache := { s.cache with clockHand := i + 1 } }
    have hloop : pickVictimLoop (fuel + 1) s =
        if !(t.line i).valid then (t, i)
        else if (t.line i).ref then pickVictimLoop fuel (t.setLine i { t.line i with ref := false })
        else (evictLine t i, i) := rfl
    have hloop' : pickVictimLoop (fuel + 1) s.recover =
        if !(t.line i).valid then (t.recover, i)
        else if (t.line i).ref then
          pickVictimLoop fuel (t.setLine i { t.line i with ref := false }).recover
        else (evictLine t.recover i, i) := rfl
    rw [hloop] at h ⊢
    rw [hloop']
    split_ifs at h ⊢ with hv hr
    · rfl
    · apply ih
      exact Disk.writesBack_setLine_ref (s := t) false h
    · have hevict := evictLine_recover (s := t) (i := i) h
      exact Prod.ext hevict.symm rfl

lemma flushLine_writesBack (h : ∀ j, s.WritesBack j)
    (j : Fin 32) : (flushLine s i).WritesBack j := by
  rw [flushLine]
  split_ifs with hd
  · rw [Bool.and_eq_true] at hd
    intro hv hdirty
    by_cases hj : j = i
    · subst hj
      rw [Disk.line_setLine_same] at hdirty
      cases hdirty
    · rw [Disk.line_setLine_of_ne _ _ hj] at hv hdirty ⊢
      rw [Disk.setLine_dev, diskWriteSectorUncached]
      split_ifs with hf
      · exact h j hv hdirty
      · by_cases hsector : s.dev.sectorOf (s.line j).lba = s.dev.sectorOf (s.line i).lba
        · -- the writes to a sector fail all or none
          rw [hsector]
          exact Or.inl (by simpa using hf)
        · refine (h j hv hdirty).imp_right fun hheld => ?_
          rw [← hheld]
          exact update_of_ne hsector _ _
  · exact h j

lemma foldl_flushLine_recover (l : List (Fin 32)) (hs : s.recover.Good P)
    (h : ∀ j, s.WritesBack j) : (l.foldl flushLine s).recover = l.foldl flushLine s.recover := by
  induction l generalizing s with
  | nil => rfl
  | cons i l ih =>
    have hstep := flushLine_recover (h i)
    have hgood := (flushLine_settles hs i).good hs.agrees
    rw [← hstep] at hgood
    rw [List.foldl_cons, List.foldl_cons, ← hstep]
    exact ih hgood (flushLine_writesBack h)

/-! ### The operations under faults -/

lemma pageCacheInit_recover (s : Disk) : (pageCacheInit s).recover = pageCacheInit s.recover := by
  rw [pageCacheInit, pageCacheInit]
  by_cases hi : s.cache.cacheInitialized = true
  · have hi' : s.recover.cache.cacheInitialized = true := hi
    rw [if_pos hi, if_pos hi']
  · have hi' : ¬ s.recover.cache.cacheInitialized = true := hi
    rw [if_neg hi, if_neg hi']
    rfl

lemma pageCacheInit_good (hs : s.recover.ReadyOn P) :
    s.recover.Settles P (pageCacheInit s).recover := by
  rw [pageCacheInit_recover]
  exact pageCacheInit_settles hs

lemma Disk.Good.free_settles (hs : s.Good P) {idx : Fin 32} (hv : (s.line idx).valid = false)
    {l : CacheLine} (hl : l.valid = false) :
    s.Settles P (s.setLine idx l) := by
  have hfree : ∀ {p : Prop}, l.valid = true → p := fun h => absurd (h.symm.trans hl) (by decide)
  have hco : (s.setLine idx l).Coherent P :=
    hs.coherent.setLine hs.init (fun _ => id) (fun _ => Or.inl) hfree (fun _ => hfree) hfree
  have hne : ∀ {j lba}, s.Holds j lba → j ≠ idx := by
    rintro j lba hj rfl
    exact absurd (hj.1.symm.trans hv) (by decide)
  have hback : ∀ {j lba}, (s.setLine idx l).Holds j lba → s.Holds j lba := by
    intro j lba hj
    by_cases hji : j = idx
    · subst hji
      exact hfree (Disk.holds_setLine_same.mp hj).1
    · exact (Disk.holds_setLine_of_ne hji).mp hj
  refine ⟨hco, hs.faultless, rfl, hs.init, fun lba _ => ?_, fun j lba hj => hback hj⟩
  apply Disk.view_congr hs.coherent hco
  · intro j hj
    exact ⟨(Disk.holds_setLine_of_ne (hne hj)).mpr hj, by rw [Disk.line_setLine_of_ne _ _ (hne hj)]⟩
  · intro h
    rw [Disk.view_of_not_holds fun j hj => h j (hback hj), Disk.setLine_dev]

section Safe

variable {s : Disk} {lba : Nat}

lemma pickVictimLine_recover (hs : s.recover.Good P) (h : s.WritesBack (clockVictim s)) :
    s.recover.Settles P (pickVictimLine s).1.recover ∧
      ((pickVictimLine s).1.line (pickVictimLine s).2).valid = false := by
  rw [← pickVictimLine_snd] at h
  have hloop : pickVictimLine s.recover = ((pickVictimLine s).1.recover, (pickVictimLine s).2) :=
    pickVictimLoop_recover _ h
  have hsettles := pickVictimLine_settles hs
  rw [hloop] at hsettles
  exact hsettles

/-- The condition on a read or a write: on a miss, the victim may be written back. -/
def Disk.EvictsSafely (s : Disk) (lba : Nat) : Prop :=
  (∀ i, ¬ s.Holds i lba) → s.WritesBack (clockVictim s)

lemma Disk.EvictsSafely.victim (h : s.EvictsSafely lba)
    (hmiss : findLine (pageCacheInit s) lba = none) :
    (pageCacheInit s).WritesBack (clockVictim (pageCacheInit s)) := by
  rw [findLine_eq_none_iff] at hmiss
  rw [pageCacheInit] at hmiss ⊢
  split_ifs at hmiss ⊢ with hi
  · exact h hmiss
  · intro hv
    cases hv

/-- Whether the device answers a read or not, the view stays. -/
theorem pageCacheReadSector_faults (hs : s.recover.ReadyOn P) (h : s.EvictsSafely lba) :
    s.recover.Shows P (pageCacheReadSector s lba).1.recover s.view := by
  have h0 := pageCacheInit_good hs
  have hgood := h0.good hs.agrees
  have hshows : ∀ {t : Disk}, s.recover.Settles P t → s.recover.Shows P t s.view := fun ht =>
    ⟨ht.coherent, ht.faultless, (ht.good hs.agrees).agrees, ht.backend, ht.view⟩
  rw [pageCacheReadSector]
  cases hf : findLine (pageCacheInit s) lba with
  | some idx => exact hshows (h0.trans (hgood.ref_settles idx true))
  | none =>
    obtain ⟨h1, hv⟩ := pickVictimLine_recover hgood (h.victim hf)
    have h2 := h0.trans h1
    have hgood' := h2.good hs.agrees
    cases hr : diskReadSectorUncached (pickVictimLine (pageCacheInit s)).1.dev lba with
    | none =>
      have h3 := h2.trans (hgood'.free_settles hv (l :=
        { (pickVictimLine (pageCacheInit s)).1.line (pickVictimLine (pageCacheInit s)).2 with
          valid := false, dirty := false, ref := false }) rfl)
      simp only [hr]
      exact hshows h3
    | some data =>
      have hdata : data = (pickVictimLine (pageCacheInit s)).1.recover.dev.contents lba := by
        rw [diskReadSectorUncached] at hr
        split_ifs at hr
        exact (Option.some.inj hr).symm
      have hno : ∀ i, ¬ (pickVictimLine (pageCacheInit s)).1.recover.Holds i lba := fun i hi =>
        findLine_eq_none_iff.mp hf i (h1.holds i lba hi)
      have hview := Disk.view_of_not_holds hno
      obtain ⟨hg, hfill⟩ := hgood'.fill hv hno false (fun _ => id) (fun _ => Or.inl)
        (fun _ => hdata) (fun h => by cases h) fun l hl hlba _ hsector => by
          rw [hdata, ← hview, hgood'.agrees l lba hl hlba hsector]
      rw [hdata, ← hview, Function.update_eq_self] at hfill
      simp only [hr]
      refine ⟨hdata ▸ hg.coherent, hg.faultless, hdata ▸ hg.agrees, h2.backend, fun l hl => ?_⟩
      rw [hdata, ← hview]
      exact (congrFun hfill l).trans (h2.view l hl)

lemma pageCacheWriteSector_faults {buffer : Sector} (hs : s.recover.ReadyOn P)
    (h : s.EvictsSafely lba) (hPQ : ∀ l, P l → Q l) (hQ : ∀ l, Q l → P l ∨ l = lba) (hlba : Q lba)
    (hsame : ∀ l, P l → l ≠ lba → s.dev.sectorOf l = s.dev.sectorOf lba → s.view l = buffer) :
    s.recover.Shows Q (pageCacheWriteSector s lba buffer).recover (update s.view lba buffer) := by
  have hwrites : s.recover.Shows Q (pageCacheWriteSector s.recover lba buffer)
      (update s.view lba buffer) := pageCacheWriteSector_shows hs hPQ hQ hlba hsame
  suffices hsuff : (pageCacheWriteSector s lba buffer).recover =
      pageCacheWriteSector s.recover lba buffer by
    rw [hsuff]
    exact hwrites
  rw [pageCacheWriteSector, pageCacheWriteSector, ← pageCacheInit_recover]
  have hfind : findLine (pageCacheInit s).recover lba = findLine (pageCacheInit s) lba := rfl
  rw [hfind]
  cases hf : findLine (pageCacheInit s) lba with
  | some idx => rfl
  | none =>
    have hvictim := h.victim hf
    rw [← pickVictimLine_snd] at hvictim
    have hloop : pickVictimLine (pageCacheInit s).recover =
        ((pickVictimLine (pageCacheInit s)).1.recover, (pickVictimLine (pageCacheInit s)).2) :=
      pickVictimLoop_recover _ hvictim
    simp only [hloop]
    rfl

lemma pageCacheFlushAll_faults (hs : s.recover.ReadyOn P) (h : ∀ i, s.WritesBack i) :
    s.recover.Shows P (pageCacheFlushAll s).recover s.view := by
  have hinit : ∀ i, (pageCacheInit s).WritesBack i := by
    rw [pageCacheInit]
    split_ifs with hi
    · exact h
    · intro i hv
      cases hv
  have hflush := foldl_flushLine_recover (List.finRange 32)
    ((pageCacheInit_good hs).good hs.agrees) hinit
  rw [pageCacheInit_recover, ← pageCacheFlushAll, ← pageCacheFlushAll] at hflush
  rw [hflush]
  exact (pageCacheFlushAll_shows hs).1

end Safe

variable {lba : Nat}

/-! ### What a failed write-back leaves behind -/

/-- The faults are the same, and the sector is too if its writes fail. -/
def Disk.Refuses (lba : Nat) (s t : Disk) : Prop :=
  t.dev.backend = s.dev.backend ∧ t.dev.writeFault = s.dev.writeFault ∧
    (s.dev.writeFault (s.dev.sectorOf lba) = true → t.dev.contents lba = s.dev.contents lba)

lemma Disk.Refuses.refl (lba : Nat) (s : Disk) : s.Refuses lba s := ⟨rfl, rfl, fun _ => rfl⟩

lemma Disk.Refuses.trans {s t u : Disk} (h : Disk.Refuses lba s t)
    (h' : Disk.Refuses lba t u) : Disk.Refuses lba s u := by
  refine ⟨h'.1.trans h.1, h'.2.1.trans h.2.1, fun hf => ?_⟩
  rw [h'.2.2 (by rw [h.2.1, Device.sectorOf, h.1, ← hf]), h.2.2 hf]

lemma flushLine_refuses (lba : Nat) (s : Disk) (i : Fin 32) :
    Disk.Refuses lba s (flushLine s i) := by
  rw [flushLine]
  split_ifs
  · rw [Disk.Refuses, Disk.setLine_dev, diskWriteSectorUncached]
    split_ifs with hf
    · exact ⟨rfl, rfl, fun _ => rfl⟩
    · refine ⟨rfl, rfl, fun hlba => update_of_ne ?_ _ _⟩
      intro hsector
      exact hf (hsector ▸ hlba)
  · exact Disk.Refuses.refl lba s

lemma pickVictimLoop_refuses (lba fuel : Nat) (s : Disk) :
    Disk.Refuses lba s (pickVictimLoop fuel s).1 := by
  induction fuel generalizing s with
  | zero => exact flushLine_refuses lba s _
  | succ fuel ih =>
    rw [pickVictimLoop]
    dsimp only
    split_ifs
    · exact Disk.Refuses.refl lba s
    · exact ih _
    · exact flushLine_refuses lba _ _

lemma pageCacheWriteSector_backend (s : Disk) (lba : Nat) (buffer : Sector) :
    (pageCacheWriteSector s lba buffer).dev.backend = s.dev.backend := by
  have hinit : (pageCacheInit s).dev = s.dev := by
    rw [pageCacheInit]
    split <;> rfl
  rw [pageCacheWriteSector, ← hinit]
  cases findLine (pageCacheInit s) lba with
  | some idx => rfl
  | none => exact (pickVictimLoop_refuses lba (32 * 2) (pageCacheInit s)).1

lemma foldl_flushLine_refuses (lba : Nat) (l : List (Fin 32)) (s : Disk) :
    Disk.Refuses lba s (l.foldl flushLine s) := by
  induction l generalizing s with
  | nil => exact Disk.Refuses.refl lba s
  | cons i l ih => exact (flushLine_refuses lba s i).trans (ih _)

/-- The data of an LBA is on the device or waits in a dirty line. -/
def Disk.Stores (s : Disk) (lba : Nat) (data : Sector) : Prop :=
  s.dev.contents lba = data ∨
    ∃ i, s.Holds i lba ∧ (s.line i).dirty = true ∧ (s.line i).data = data

lemma Disk.Coherent.stores_view {s : Disk} (hs : s.Coherent P) (hlba : P lba) :
    s.Stores lba (s.view lba) := by
  by_cases h : ∃ i, s.Holds i lba ∧ (s.line i).dirty = true
  · obtain ⟨i, hi, hd⟩ := h
    exact Or.inr ⟨i, hi, hd, (Disk.view_of_holds hs hi).symm⟩
  · push Not at h
    exact Or.inl (hs.contents_eq_view hlba fun i hi => by simpa using h i hi)

lemma pageCacheWriteSector_awaits (s : Disk) (buffer : Sector) {i : Fin 32} {l : Nat}
    (hne : l ≠ lba) (hi : (pageCacheWriteSector s lba buffer).Holds i l)
    (hd : ((pageCacheWriteSector s lba buffer).line i).dirty = true) :
    s.Holds i l ∧ (s.line i).dirty = true := by
  have hset : ∀ {t : Disk} {j : Fin 32} {c : CacheLine}, s.Awaits t → c.lba = lba →
      (t.setLine j c).Holds i l → ((t.setLine j c).line i).dirty = true →
        s.Holds i l ∧ (s.line i).dirty = true := by
    intro t j c hst hc hi hd
    by_cases hij : i = j
    · subst hij
      exact absurd ((Disk.holds_setLine_same.mp hi).2.symm.trans hc) hne
    · rw [Disk.line_setLine_of_ne _ _ hij] at hd
      exact hst i l ((Disk.holds_setLine_of_ne hij).mp hi) hd
  simp only [pageCacheWriteSector] at hi hd
  cases hf : findLine (pageCacheInit s) lba with
  | some idx =>
    simp only [hf] at hi hd
    have hidx := (findLine_eq_some hf).2
    exact hset (c := { (pageCacheInit s).line idx with
      data := buffer, dirty := true, ref := true }) (pageCacheInit_awaits s) hidx hi hd
  | none =>
    simp only [hf] at hi hd
    exact hset ((pageCacheInit_awaits s).trans (pickVictimLoop_awaits _ _)) rfl hi hd

section Lost

variable {s : Disk} {i : Fin 32}

lemma Disk.not_writesBack_iff : ¬ s.WritesBack i ↔
    (s.line i).valid = true ∧ (s.line i).dirty = true ∧
      s.dev.writeFault (s.dev.sectorOf (s.line i).lba) = true ∧
        s.dev.contents (s.line i).lba ≠ (s.line i).data := by
  simp [Disk.WritesBack]

lemma pickVictimLine_lost (hs : s.Coherent P) (h : ¬ s.WritesBack (clockVictim s)) {j : Fin 32}
    {l : CacheLine} (hj : j = (pickVictimLine s).2)
    (hl : l.dirty = true → l.lba ≠ (s.line (clockVictim s)).lba) :
    ¬ ((pickVictimLine s).1.setLine j l).Stores (s.line (clockVictim s)).lba
      (s.line (clockVictim s)).data := by
  obtain ⟨hv, hd, hf, hne⟩ := Disk.not_writesBack_iff.mp h
  rintro (hstored | ⟨k, hk, hkd, -⟩)
  · have hkept := (pickVictimLoop_refuses _ (32 * 2) s).2.2 hf
    rw [← pickVictimLine] at hkept
    rw [Disk.setLine_dev, hkept] at hstored
    exact hne hstored
  · by_cases hkj : k = j
    · subst hkj
      rw [Disk.line_setLine_same] at hkd
      exact hl hkd (Disk.holds_setLine_same.mp hk).2
    · rw [Disk.line_setLine_of_ne _ _ hkj] at hkd
      obtain ⟨hks, -⟩ := pickVictimLoop_awaits _ s k _ ((Disk.holds_setLine_of_ne hkj).mp hk) hkd
      rw [hj, pickVictimLine_snd] at hkj
      exact hkj (hs.unique k _ _ hks ⟨hv, rfl⟩)

lemma Disk.Coherent.init_eq (hs : s.Coherent P) (hv : (s.line i).valid = true) :
    pageCacheInit s = s := by
  rw [pageCacheInit, if_pos]
  by_contra hi
  have hfree := hs.fresh (by simpa using hi) i
  rw [hv] at hfree
  cases hfree

lemma pageCacheReadSector_lost (hs : s.Coherent P) {lba : Nat} (hmiss : ∀ i, ¬ s.Holds i lba)
    (h : ¬ s.WritesBack (clockVictim s)) :
    ¬ (pageCacheReadSector s lba).1.Stores (s.line (clockVictim s)).lba
      (s.line (clockVictim s)).data := by
  obtain ⟨hv, -⟩ := Disk.not_writesBack_iff.mp h
  simp only [pageCacheReadSector, hs.init_eq hv, findLine_eq_none_iff.mpr hmiss]
  split
  · exact pickVictimLine_lost hs h rfl fun hd => by cases hd
  · exact pickVictimLine_lost hs h rfl fun hd => by cases hd

lemma pageCacheWriteSector_lost (hs : s.Coherent P) {lba : Nat} (hmiss : ∀ i, ¬ s.Holds i lba)
    (h : ¬ s.WritesBack (clockVictim s)) (buffer : Sector) :
    ¬ (pageCacheWriteSector s lba buffer).Stores (s.line (clockVictim s)).lba
      (s.line (clockVictim s)).data := by
  obtain ⟨hv, -⟩ := Disk.not_writesBack_iff.mp h
  simp only [pageCacheWriteSector, hs.init_eq hv, findLine_eq_none_iff.mpr hmiss]
  exact pickVictimLine_lost hs h rfl fun _ heq => hmiss _ ⟨hv, heq.symm⟩

lemma pageCacheFlushAll_lost (hs : s.Coherent P) (h : ¬ s.WritesBack i) :
    ¬ (pageCacheFlushAll s).Stores (s.line i).lba (s.line i).data := by
  obtain ⟨hv, -, hf, hne⟩ := Disk.not_writesBack_iff.mp h
  rintro (hstored | ⟨k, hk, hkd, -⟩)
  · rw [pageCacheFlushAll, hs.init_eq hv, (foldl_flushLine_refuses _ _ s).2.2 hf] at hstored
    exact hne hstored
  · rw [pageCacheFlushAll_clean s hk.1] at hkd
    cases hkd

end Lost

/-! ### Runs over a device that fails -/

/-- An operation of the cache, or a change of what fails. -/
inductive FaultOp where
  | read (lba : Nat)
  | write (lba : Nat) (buffer : Sector)
  | flushAll
  | faults (readFault writeFault : Nat → Bool)

/-- The disk, with the data of the last accepted write to each LBA. -/
structure FaultyDisk where
  disk : Disk
  accepted : Nat → Option Sector

def faultStep (s : FaultyDisk) : FaultOp → FaultyDisk × DiskAnswer
  | .read lba =>
    ({ s with disk := (pageCacheReadSector s.disk lba).1 },
      .ofRead (pageCacheReadSector s.disk lba).2)
  | .write lba buffer =>
    ({ disk := pageCacheWriteSector s.disk lba buffer
       accepted := Function.update s.accepted lba (some buffer) }, .ok)
  | .flushAll => ({ s with disk := pageCacheFlushAll s.disk }, .ok)
  | .faults r w =>
    ({ s with disk := { s.disk with dev := { s.disk.dev with readFault := r, writeFault := w } } },
      .ok)

/-- What is written is what was last accepted for the other LBAs of its sector. -/
def FaultyDisk.Accords (s : FaultyDisk) (lba : Nat) (buffer : Sector) : Prop :=
  ∀ l data, s.accepted l = some data → l ≠ lba →
    s.disk.dev.sectorOf l = s.disk.dev.sectorOf lba → data = buffer

/-- No write-back of the operation fails, unless the device holds the data already: the victim of
a miss and every line of a flush may be written back. And no sector is to hold two things. -/
def NoFailedWriteBack (s : FaultyDisk) : FaultOp → Prop
  | .read lba => s.disk.EvictsSafely lba
  | .write lba buffer => s.disk.EvictsSafely lba ∧ s.Accords lba buffer
  | .flushAll => ∀ i, s.disk.WritesBack i
  | .faults _ _ => True

/-- Every accepted write is on the device or in a dirty line, and once the device has recovered a
read returns it and a flush stores it. -/
def AcceptedKept (s : FaultyDisk) : Prop :=
  ∀ lba data, s.accepted lba = some data →
    s.disk.Stores lba data ∧ (pageCacheReadSector s.disk.recover lba).2 = some data ∧
      (pageCacheFlushAll s.disk.recover).dev.contents lba = data

/-- A write was accepted. -/
def Written (accepted : Nat → Option Sector) (lba : Nat) : Prop := accepted lba ≠ none

/-- The invariant: the kernel sees the accepted data, and nothing else waits to be written back. -/
structure FaultyDisk.Sound (s : FaultyDisk) : Prop where
  coherent : s.disk.Coherent (Written s.accepted)
  agrees : s.disk.Agrees (Written s.accepted)
  view : ∀ lba data, s.accepted lba = some data → s.disk.view lba = data

lemma FaultyDisk.Sound.on {s : FaultyDisk} (hs : s.Sound) :
    s.disk.recover.ReadyOn (Written s.accepted) := hs.coherent.recover_ready hs.agrees

lemma FaultyDisk.Sound.of_shows {s t : Disk} {accepted : Nat → Option Sector} {view : Nat → Sector}
    (h : s.Shows (Written accepted) t.recover view)
    (hview : ∀ lba data, accepted lba = some data → view lba = data) :
    FaultyDisk.Sound ⟨t, accepted⟩ := by
  refine ⟨Disk.recover_coherent.mp h.coherent, h.agrees, fun lba data hdata => ?_⟩
  have hwritten : Written accepted lba := by
    intro hnone
    cases hnone.symm.trans hdata
  rw [← hview lba data hdata, ← h.view lba hwritten]
  rfl

lemma FaultyDisk.Sound.kept {s : FaultyDisk} (hs : s.Sound) : AcceptedKept s := by
  intro lba data hacc
  have hview := hs.view lba data hacc
  have hlba : Written s.accepted lba := by simp [Written, hacc]
  refine ⟨?_, ?_, ?_⟩
  · rw [← hview]
    exact hs.coherent.stores_view hlba
  · rw [(pageCacheReadSector_shows hs.on lba).2 hlba, Disk.recover_view, hview]
  · rw [(pageCacheFlushAll_shows hs.on).2 lba hlba, Disk.recover_view, hview]

lemma FaultyDisk.Sound.accepted_line {s : FaultyDisk} (hs : s.Sound) {i : Fin 32}
    (hv : (s.disk.line i).valid = true) (hd : (s.disk.line i).dirty = true) :
    s.accepted (s.disk.line i).lba = some (s.disk.line i).data := by
  have hi : s.disk.Holds i (s.disk.line i).lba := ⟨hv, rfl⟩
  obtain ⟨data, hdata⟩ := Option.ne_none_iff_exists'.mp (hs.coherent.dirty i _ hi hd)
  have hview := hs.view _ _ hdata
  rw [Disk.view_of_holds hs.coherent hi] at hview
  rw [hdata, hview]

lemma FaultyDisk.sound_boot (dev : Device) : FaultyDisk.Sound ⟨Disk.boot dev, fun _ => none⟩ :=
  ⟨Disk.coherent_boot _ dev, fun _ _ h => absurd rfl h, fun _ _ h => by cases h⟩

lemma faultStep_flushAll (s : FaultyDisk) :
    (faultStep s .flushAll).1 = ⟨pageCacheFlushAll s.disk, s.accepted⟩ := rfl

lemma faultStep_sound {s : FaultyDisk} (hs : s.Sound) {o : FaultOp} (ho : NoFailedWriteBack s o) :
    (faultStep s o).1.Sound := by
  cases o with
  | read lba => exact .of_shows (pageCacheReadSector_faults hs.on ho) hs.view
  | write lba buffer =>
    obtain ⟨hsafe, haccords⟩ := ho
    refine .of_shows (pageCacheWriteSector_faults hs.on hsafe (fun l hl => ?_) (fun l hl => ?_) ?_
      fun l hl hne hsector => ?_) fun l data hacc => ?_
    · by_cases hne : l = lba
      · simp [Written, hne]
      · rwa [Written, update_of_ne hne]
    · by_cases hne : l = lba
      · exact Or.inr hne
      · rw [Written, update_of_ne hne] at hl
        exact Or.inl hl
    · simp [Written]
    · obtain ⟨data, hdata⟩ := Option.ne_none_iff_exists'.mp hl
      rw [hs.view l data hdata, haccords l data hdata hne hsector]
    · by_cases hne : l = lba
      · subst hne
        rw [update_self] at hacc ⊢
        exact Option.some.inj hacc
      · rw [update_of_ne hne] at hacc ⊢
        exact hs.view l data hacc
  | flushAll =>
    rw [faultStep_flushAll]
    exact .of_shows (pageCacheFlushAll_faults hs.on ho) hs.view
  | faults r w =>
    exact ⟨⟨hs.coherent.unique, hs.coherent.clean, hs.coherent.dirty, hs.coherent.fresh⟩,
      hs.agrees, hs.view⟩

/-- A flush stores one thing in a sector. -/
lemma AcceptedKept.accords {s : FaultyDisk} (h : AcceptedKept s) {l l' : Nat} {data data' : Sector}
    (hl : s.accepted l = some data) (hl' : s.accepted l' = some data')
    (hsector : s.disk.dev.sectorOf l = s.disk.dev.sectorOf l') : data = data' := by
  have hbackend : (pageCacheFlushAll s.disk.recover).dev.backend = s.disk.dev.backend := by
    rw [pageCacheFlushAll, (foldl_flushLine_refuses l _ _).1, pageCacheInit]
    split <;> rfl
  rw [← (h l data hl).2.2, ← (h l' data' hl').2.2, Device.contents, Device.contents,
    Device.sectorOf, Device.sectorOf, hbackend]
  exact congrArg _ hsector

lemma faultStep_exact {s : FaultyDisk} (hs : s.Sound) {o : FaultOp}
    (h : AcceptedKept (faultStep s o).1) : NoFailedWriteBack s o := by
  -- the accepted data of a line that cannot be written back is nowhere after the step
  have hlost : ∀ i, ¬ s.disk.WritesBack i →
      (faultStep s o).1.accepted (s.disk.line i).lba = s.accepted (s.disk.line i).lba →
      (faultStep s o).1.disk.Stores (s.disk.line i).lba (s.disk.line i).data := by
    intro i hi hacc
    obtain ⟨hv, hd, -, -⟩ := Disk.not_writesBack_iff.mp hi
    rw [hs.accepted_line hv hd] at hacc
    exact (h _ _ hacc).1
  cases o with
  | read lba =>
    intro hmiss
    by_contra ho
    exact pageCacheReadSector_lost hs.coherent hmiss ho (hlost _ ho rfl)
  | write lba buffer =>
    constructor
    · intro hmiss
      by_contra ho
      obtain ⟨hv, -⟩ := Disk.not_writesBack_iff.mp ho
      have hother : (s.disk.line (clockVictim s.disk)).lba ≠ lba := fun heq => hmiss _ ⟨hv, heq⟩
      exact pageCacheWriteSector_lost hs.coherent hmiss ho buffer
        (hlost _ ho (update_of_ne hother _ _))
    · intro l data hacc hne hsector
      have hbackend : (pageCacheWriteSector s.disk lba buffer).dev.backend = s.disk.dev.backend :=
        pageCacheWriteSector_backend s.disk lba buffer
      have hsector' : (faultStep s (.write lba buffer)).1.disk.dev.sectorOf l =
          (faultStep s (.write lba buffer)).1.disk.dev.sectorOf lba := by
        simp only [faultStep, Device.sectorOf, hbackend]
        exact hsector
      exact h.accords ((update_of_ne hne _ _).trans hacc) (update_self ..) hsector'
  | flushAll =>
    intro i
    by_contra hi
    have hstored := hlost i hi rfl
    simp only [faultStep_flushAll] at hstored
    exact pageCacheFlushAll_lost hs.coherent hi hstored
  | faults r w => trivial

/-- From any device and through any change of its faults: the accepted data is safe all along a run
exactly when no write-back of the run fails on a sector that does not hold the data already, and no
sector is given other data by way of another LBA. -/
theorem acceptedKept_iff (dev : Device) (ops : List FaultOp) :
    (∀ pre, pre <+: ops →
        AcceptedKept (Machine.run faultStep ⟨Disk.boot dev, fun _ => none⟩ pre)) ↔
      Machine.Runs NoFailedWriteBack faultStep ⟨Disk.boot dev, fun _ => none⟩ ops :=
  Machine.runs_iff_forall_prefix (I := FaultyDisk.Sound) (fun _ _ hs ho => faultStep_sound hs ho)
    (fun _ hs => hs.kept) (fun _ _ hs h => faultStep_exact hs h) (FaultyDisk.sound_boot dev) ops

/-- One accepted write, then a flush on a device that is gone. -/
theorem acceptedKept_lost : ¬ AcceptedKept (Machine.run faultStep
    ⟨Disk.boot (Device.ofSectors fun _ => Bytes.zero), fun _ => none⟩
    [.write 7 (fun _ => 1), .faults (fun _ => true) (fun _ => true), .flushAll]) := by
  intro h
  have hflushed := (h 7 (fun _ => 1) rfl).2.2
  exact absurd (congrArg (Bytes.get · 0) hflushed) (by decide +kernel)

end NeuroSpark
