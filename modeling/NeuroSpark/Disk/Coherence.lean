import NeuroSpark.Disk.FlatDisk

/-!
# Cached and uncached access to one device

TFS and the snapshots reach the disk through the page cache (`disk_read_sector`,
`disk_write_sector`); ext2 and the batches of `disk_process_batch` call
`disk_read_sector_uncached` and `disk_write_sector_uncached` directly. Nothing writes a line back
before an uncached read of its LBA, and nothing drops it before an uncached write, so the two paths
agree exactly as long as the uncached one stays away from cached sectors.
-/

namespace NeuroSpark

inductive DiskOp where
  | read (lba : Nat)
  | write (lba : Nat) (buffer : Sector)
  | readUncached (lba : Nat)
  | writeUncached (lba : Nat) (buffer : Sector)
  | flushAll

/-- One call by either path. -/
def diskStep (s : Disk) : DiskOp → Disk × DiskAnswer
  | .read lba =>
    ((diskReadSector s lba Bytes.zero).1, .sector (diskReadSector s lba Bytes.zero).2)
  | .write lba buffer => (diskWriteSector s lba buffer, .ok)
  | .readUncached lba => (s, .ofRead (diskReadSectorUncached s.dev lba))
  | .writeUncached lba buffer =>
    ({ s with dev := diskWriteSectorUncached s.dev lba buffer }, .ok)
  | .flushAll => (pageCacheFlushAll s, .ok)

/-- The flat disk that both paths are to share. -/
def sharedStep (f : Nat → Sector) : DiskOp → (Nat → Sector) × DiskAnswer
  | .read lba | .readUncached lba => (f, .sector (f lba))
  | .write lba buffer | .writeUncached lba buffer => (Function.update f lba buffer, .ok)
  | .flushAll => (f, .ok)

instance (s : Disk) (i : Fin 32) (lba : Nat) : Decidable (s.Holds i lba) :=
  inferInstanceAs (Decidable (_ ∧ _))

/-- The LBA reaches the device whole. The uncached path reads no sector that a dirty line caches and
writes no sector that any valid line caches. -/
def Disciplined (s : Disk) : DiskOp → Prop
  | .read lba | .write lba _ => s.dev.sectorOf lba = lba
  | .readUncached lba =>
    s.dev.sectorOf lba = lba ∧ ∀ i, s.Holds i lba → (s.line i).dirty = false
  | .writeUncached lba _ => s.dev.sectorOf lba = lba ∧ ∀ i, ¬ s.Holds i lba
  | .flushAll => True

instance (s : Disk) : ∀ o, Decidable (Disciplined s o)
  | .read _ | .write _ _ => inferInstanceAs (Decidable (_ = _))
  | .readUncached lba =>
    inferInstanceAs (Decidable (_ ∧ ∀ i, s.Holds i lba → (s.line i).dirty = false))
  | .writeUncached lba _ => inferInstanceAs (Decidable (_ ∧ ∀ i, ¬ s.Holds i lba))
  | .flushAll => instDecidableTrue

/-- The LBAs that reach the device whole. -/
def Device.Whole (d : Device) (lba : Nat) : Prop := d.sectorOf lba = lba

/-- The disk is in order, and shows what the flat disk holds. -/
structure Disk.Shares (dev : Device) (s : Disk) (f : Nat → Sector) : Prop where
  coherent : s.Coherent dev.Whole
  faultless : s.dev.Faultless
  backend : s.dev.backend = dev.backend
  view : ∀ lba, dev.Whole lba → s.view lba = f lba

variable {dev : Device} {s : Disk} {f : Nat → Sector} {lba : Nat}

section

variable (h : s.Shares dev f)
include h

lemma Disk.Shares.whole_iff : s.dev.sectorOf lba = lba ↔ dev.Whole lba := by
  rw [Device.sectorOf, h.backend]
  exact Iff.rfl

lemma Disk.Shares.on : s.ReadyOn dev.Whole :=
  ⟨h.coherent, h.faultless, Disk.agrees_of_whole fun _ => h.whole_iff.mpr⟩

lemma Disk.Shares.of_shows {t : Disk} {view : Nat → Sector} (ht : s.Shows dev.Whole t view)
    {f' : Nat → Sector}
    (hview : ∀ lba, dev.Whole lba → view lba = f' lba) : t.Shares dev f' :=
  ⟨ht.coherent, ht.faultless, ht.backend.trans h.backend,
    fun lba hlba => (ht.view lba hlba).trans (hview lba hlba)⟩

lemma Disk.Shares.update_view (lba : Nat) (buffer : Sector) (l : Nat)
    (hl : dev.Whole l) : Function.update s.view lba buffer l = Function.update f lba buffer l := by
  by_cases hne : l = lba
  · subst hne
    rw [Function.update_self, Function.update_self]
  · rw [Function.update_of_ne hne, Function.update_of_ne hne, h.view l hl]

lemma Disk.Shares.writeUncached (hlba : dev.Whole lba) (buffer : Sector)
    (hno : ∀ i, ¬ s.Holds i lba) :
    Disk.Shares dev { s with dev := diskWriteSectorUncached s.dev lba buffer }
      (Function.update f lba buffer) := by
  set t : Disk := { s with dev := diskWriteSectorUncached s.dev lba buffer }
  have hdev : ∀ l, dev.Whole l → l ≠ lba → t.dev.contents l = s.dev.contents l := by
    intro l hl hne
    rw [h.faultless.contents_write, if_neg]
    rwa [h.whole_iff.mpr hl, h.whole_iff.mpr hlba]
  have hne : ∀ i l, t.Holds i l → l ≠ lba := by
    rintro i l hi rfl
    exact hno i hi
  have hco : t.Coherent dev.Whole := by
    refine ⟨h.coherent.unique, fun i l hl hi hd => ?_, h.coherent.dirty, h.coherent.fresh⟩
    rw [hdev l hl (hne i l hi)]
    exact h.coherent.clean i l hl hi hd
  refine ⟨hco, h.faultless.write _ _, (diskWriteSectorUncached_backend ..).trans h.backend,
    fun l hl => ?_⟩
  rw [← h.update_view lba buffer l hl]
  by_cases hl' : l = lba
  · subst hl'
    rw [Disk.view_of_not_holds (s := t) hno, Function.update_self, h.faultless.contents_write,
      if_pos rfl]
  · rw [Function.update_of_ne hl']
    refine Disk.view_congr h.coherent hco (fun i hi => ⟨hi, rfl⟩) fun hnone => ?_
    rw [Disk.view_of_not_holds (s := t) hnone, hdev l hl hl']

/-- A call by either path is one of the flat disk. -/
lemma Disk.Shares.step {o : DiskOp} (ho : Disciplined s o) :
    (diskStep s o).1.Shares dev (sharedStep f o).1 ∧ (diskStep s o).2 = (sharedStep f o).2 := by
  cases o with
  | read lba =>
    obtain ⟨hshows, hread⟩ := pageCacheReadSector_shows h.on lba
    have hlba := h.whole_iff.mp ho
    refine ⟨h.of_shows hshows h.view, ?_⟩
    simp only [diskStep, sharedStep, diskReadSector]
    rw [hread hlba, Option.getD_some, h.view lba hlba]
  | write lba buffer =>
    have hlba := h.whole_iff.mp ho
    refine ⟨h.of_shows ?_ (h.update_view lba buffer), rfl⟩
    refine pageCacheWriteSector_shows h.on (fun _ => id) (fun _ => Or.inl) hlba
      fun l hl hne hsector => ?_
    rw [h.whole_iff.mpr hl, h.whole_iff.mpr hlba] at hsector
    exact absurd hsector hne
  | readUncached lba =>
    have hlba := h.whole_iff.mp ho.1
    refine ⟨h, ?_⟩
    simp only [diskStep, sharedStep]
    rw [h.faultless.read lba, DiskAnswer.ofRead, h.coherent.contents_eq_view hlba ho.2,
      h.view lba hlba]
  | writeUncached lba buffer => exact ⟨h.writeUncached (h.whole_iff.mp ho.1) buffer ho.2, rfl⟩
  | flushAll =>
    simp only [diskStep, sharedStep]
    exact ⟨h.of_shows (pageCacheFlushAll_shows h.on).1 h.view, trivial⟩

end

/-- As long as every LBA reaches the device whole and the uncached path keeps away from cached
sectors, the two paths share one flat disk: every read by either path answers the latest write by
either path, and every sector that is not waiting in a dirty line is up to date on the device, so
that no flush or eviction brings back older data. -/
theorem diskPaths_coherent_of_disciplined {dev : Device} (hdev : dev.Faultless) {ops : List DiskOp}
    (h : Machine.Runs Disciplined diskStep (Disk.boot dev) ops) :
    Machine.outputs diskStep (Disk.boot dev) ops = Machine.outputs sharedStep dev.contents ops ∧
      ∀ lba, dev.Whole lba → (∀ i, (Machine.run diskStep (Disk.boot dev) ops).Holds i lba →
          ((Machine.run diskStep (Disk.boot dev) ops).line i).dirty = false) →
        (Machine.run diskStep (Disk.boot dev) ops).dev.contents lba =
          Machine.run sharedStep dev.contents ops lba := by
  have h0 : (Disk.boot dev).Shares dev dev.contents :=
    ⟨Disk.coherent_boot _ dev, hdev, rfl, fun lba _ =>
      Disk.view_of_not_holds fun i => Disk.not_holds_boot dev i lba⟩
  obtain ⟨hshares, hout⟩ := Machine.outputs_eq_of_related (fun _ _ _ hs ho => hs.step ho) h0 h
  refine ⟨hout, fun lba hlba hd => ?_⟩
  rw [hshares.coherent.contents_eq_view hlba hd, hshares.view lba hlba]

/-- A sector is flushed before it is read past the cache. -/
theorem diskPaths_coherent_flush_then_uncached :
    Machine.Runs Disciplined diskStep (Disk.boot (Device.zeros .ata))
        [.write 7 (fun _ => 1), .flushAll, .readUncached 7, .writeUncached 8 (fun _ => 2),
          .read 8] ∧
      Machine.outputs diskStep (Disk.boot (Device.zeros .ata))
          [.write 7 (fun _ => 1), .flushAll, .readUncached 7, .writeUncached 8 (fun _ => 2),
            .read 8] =
        [.ok, .ok, .sector fun _ => 1, .ok, .sector fun _ => 2] := by
  have hr : Machine.Runs Disciplined diskStep (Disk.boot (Device.zeros .ata))
      [.write 7 (fun _ => 1), .flushAll, .readUncached 7, .writeUncached 8 (fun _ => 2),
        .read 8] := by
    decide +kernel
  exact ⟨hr, (diskPaths_coherent_of_disciplined (Device.zeros_faultless .ata) hr).1⟩

/-- The first byte of an answer, to tell answers apart. -/
def DiskAnswer.head : DiskAnswer → UInt8
  | .sector data => data.get 0
  | .ok | .error => 0

/-- Without the discipline three failures occur on a disk of zeros: an uncached read of a sector
just written through the cache answers the old contents, a flush replaces a newer uncached write by
the older cached one, and a write to an LBA beyond 28 bits replaces what another LBA holds. -/
theorem diskPaths_incoherent :
    Machine.outputs diskStep (Disk.boot (Device.zeros .ata))
          [.write 7 (fun _ => 1), .readUncached 7] ≠
        Machine.outputs sharedStep (fun _ => Bytes.zero) [.write 7 (fun _ => 1), .readUncached 7] ∧
      Machine.outputs diskStep (Disk.boot (Device.zeros .ata))
          [.write 7 (fun _ => 1), .writeUncached 7 (fun _ => 2), .flushAll, .readUncached 7] ≠
        Machine.outputs sharedStep (fun _ => Bytes.zero)
          [.write 7 (fun _ => 1), .writeUncached 7 (fun _ => 2), .flushAll, .readUncached 7] ∧
      Machine.outputs diskStep (Disk.boot (Device.zeros .ata))
          [.writeUncached 7 (fun _ => 1), .writeUncached 0x10000007 (fun _ => 2),
            .readUncached 7] ≠
        Machine.outputs sharedStep (fun _ => Bytes.zero)
          [.writeUncached 7 (fun _ => 1), .writeUncached 0x10000007 (fun _ => 2),
            .readUncached 7] := by
  refine ⟨?_, ?_, ?_⟩
  · intro h
    exact absurd (congrArg (List.map DiskAnswer.head) h) (by decide +kernel)
  · intro h
    exact absurd (congrArg (List.map DiskAnswer.head) h) (by decide +kernel)
  · intro h
    exact absurd (congrArg (List.map DiskAnswer.head) h) (by decide +kernel)

/-- Every line of `t` that waits to be written back waits in `s` already. -/
def Disk.Awaits (s t : Disk) : Prop :=
  ∀ i lba, t.Holds i lba → (t.line i).dirty = true → s.Holds i lba ∧ (s.line i).dirty = true

lemma Disk.Awaits.trans {s t u : Disk} (h : s.Awaits t) (h' : t.Awaits u) : s.Awaits u := by
  intro i lba hi hd
  obtain ⟨hti, htd⟩ := h' i lba hi hd
  exact h i lba hti htd

lemma Disk.awaits_setLine (s : Disk) {i : Fin 32} {l : CacheLine}
    (h : l.valid = true → l.dirty = true → s.Holds i l.lba ∧ (s.line i).dirty = true) :
    s.Awaits (s.setLine i l) := by
  intro j lba hj hd
  by_cases hji : j = i
  · subst hji
    obtain ⟨hv, rfl⟩ := Disk.holds_setLine_same.mp hj
    rw [Disk.line_setLine_same] at hd
    exact h hv hd
  · rw [Disk.line_setLine_of_ne s l hji] at hd
    exact ⟨(Disk.holds_setLine_of_ne hji).mp hj, hd⟩

lemma flushLine_awaits (s : Disk) (idx : Fin 32) : s.Awaits (flushLine s idx) := by
  rw [flushLine]
  split_ifs
  · intro i lba hi hd
    by_cases hij : i = idx
    · subst hij
      rw [Disk.line_setLine_same] at hd
      cases hd
    · rw [Disk.line_setLine_of_ne _ _ hij] at hd
      exact ⟨(Disk.holds_setLine_of_ne hij).mp hi, hd⟩
  · exact fun i lba hi hd => ⟨hi, hd⟩

lemma evictLine_awaits (s : Disk) (idx : Fin 32) : s.Awaits (evictLine s idx) :=
  (flushLine_awaits s idx).trans (Disk.awaits_setLine _ fun hv => by cases hv)

lemma pickVictimLoop_awaits (fuel : Nat) (s : Disk) : s.Awaits (pickVictimLoop fuel s).1 := by
  induction fuel generalizing s with
  | zero => exact evictLine_awaits s _
  | succ fuel ih =>
    rw [pickVictimLoop]
    split_ifs
    · exact fun i lba hi hd => ⟨hi, hd⟩
    · refine Disk.Awaits.trans ?_ (ih _)
      exact Disk.awaits_setLine _ fun hv hd => ⟨⟨hv, rfl⟩, hd⟩
    · exact evictLine_awaits _ _

lemma pageCacheInit_awaits (s : Disk) : s.Awaits (pageCacheInit s) := by
  rw [pageCacheInit]
  split_ifs
  · exact fun i lba hi hd => ⟨hi, hd⟩
  · intro i lba hi
    cases hi.1

lemma diskReadSector_awaits (s : Disk) (lba : Nat) (buffer : Sector) :
    s.Awaits (diskReadSector s lba buffer).1 := by
  refine (pageCacheInit_awaits s).trans ?_
  rw [diskReadSector, pageCacheReadSector]
  dsimp only
  split
  · exact Disk.awaits_setLine _ fun hv hd => ⟨⟨hv, rfl⟩, hd⟩
  · refine (pickVictimLoop_awaits (32 * 2) _).trans ?_
    split
    · exact Disk.awaits_setLine _ fun hv => by cases hv
    · exact Disk.awaits_setLine _ fun _ hd => by cases hd

end NeuroSpark
