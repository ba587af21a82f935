import Mathlib.Logic.Function.Basic
import Mathlib.Data.List.FinRange
import NeuroSpark.Lib.Bytes
import NeuroSpark.Lib.Sizes

/-!
# The block device and its page cache

`Device` is the disk as `disk.c` offers it: a sector is read or written by its LBA
(`disk_read_sector_uncached`, `disk_write_sector_uncached`), a read may fail and a write may be
lost. The commands of ATA carry 28 bits of an LBA, those of AHCI all of it. The rest of the protocol
of the controller stays below this interface.

`page_cache.c` keeps 32 lines in front of it, written back lazily and replaced by a second-chance
clock.
-/

namespace NeuroSpark

variable {d : Device}

/-- The contents of one sector (`uint16_t[256]` in the source). -/
abbrev Sector := Bytes 512

/-- The controllers that serve a disk. -/
inductive DiskBackend where
  | ata
  | ahci

/-- The sector that a command with an LBA is about. -/
def DiskBackend.sectorOf : DiskBackend → Nat → Nat
  | .ata, lba => lba % 2 ^ 28
  | .ahci, lba => lba

/-- A disk, with the sectors on which reads fail and the sectors on which writes are lost. -/
structure Device where
  backend : DiskBackend
  sectors : Nat → Sector
  readFault : Nat → Bool
  writeFault : Nat → Bool

abbrev Device.sectorOf (d : Device) (lba : Nat) : Nat := d.backend.sectorOf lba

/-- What the device holds at an LBA. -/
def Device.contents (d : Device) (lba : Nat) : Sector := d.sectors (d.sectorOf lba)

/-- A device that never fails and takes whole LBAs. -/
def Device.ofSectors (f : Nat → Sector) : Device := ⟨.ahci, f, fun _ => false, fun _ => false⟩

/-- No access to the device fails. -/
structure Device.Faultless (d : Device) : Prop where
  reads : ∀ sector, d.readFault sector = false
  writes : ∀ sector, d.writeFault sector = false

/-- No access fails, and every LBA is a sector of its own. -/
structure Device.Healthy (d : Device) : Prop extends d.Faultless where
  whole : ∀ lba, d.sectorOf lba = lba

lemma Device.healthy_ofSectors (f : Nat → Sector) : (Device.ofSectors f).Healthy :=
  ⟨⟨fun _ => rfl, fun _ => rfl⟩, fun _ => rfl⟩

lemma Device.Healthy.backend (h : d.Healthy) : d.backend = .ahci := by
  have hwhole := h.whole (2 ^ 28)
  unfold Device.sectorOf at hwhole
  cases hb : d.backend with
  | ahci => rfl
  | ata =>
    rw [hb] at hwhole
    exact absurd hwhole (by decide)

/-- A disk of zeros that does not fail. -/
def Device.zeros (backend : DiskBackend) : Device :=
  ⟨backend, fun _ => Bytes.zero, fun _ => false, fun _ => false⟩

lemma Device.zeros_faultless (backend : DiskBackend) : (Device.zeros backend).Faultless :=
  ⟨fun _ => rfl, fun _ => rfl⟩

lemma Device.contents_of_whole {lba : Nat} (h : d.sectorOf lba = lba) :
    d.contents lba = d.sectors lba := by
  rw [Device.contents, h]

lemma Device.Healthy.contents (h : d.Healthy) : d.contents = d.sectors :=
  funext fun lba => Device.contents_of_whole (h.whole lba)

/-- `none` stands for any result other than `DISK_IO_OK`. -/
def diskReadSectorUncached (d : Device) (lba : Nat) : Option Sector :=
  if d.readFault (d.sectorOf lba) then none else some (d.contents lba)

def diskWriteSectorUncached (d : Device) (lba : Nat) (buffer : Sector) : Device :=
  if d.writeFault (d.sectorOf lba) then d
  else { d with sectors := Function.update d.sectors (d.sectorOf lba) buffer }

@[simp] lemma diskWriteSectorUncached_backend (d : Device) (lba : Nat) (buffer : Sector) :
    (diskWriteSectorUncached d lba buffer).backend = d.backend := by
  unfold diskWriteSectorUncached
  split <;> rfl

lemma Device.Faultless.read (h : d.Faultless) (lba : Nat) :
    diskReadSectorUncached d lba = some (d.contents lba) := by
  simp [diskReadSectorUncached, h.reads]

lemma Device.Faultless.contents_write (h : d.Faultless) (lba : Nat) (buffer : Sector)
    (l : Nat) : (diskWriteSectorUncached d lba buffer).contents l =
      if d.sectorOf l = d.sectorOf lba then buffer else d.contents l := by
  simp [diskWriteSectorUncached, h.writes, Device.contents, Device.sectorOf, Function.update_apply]

lemma Device.Faultless.write (h : d.Faultless) (lba : Nat) (buffer : Sector) :
    (diskWriteSectorUncached d lba buffer).Faultless := by
  constructor <;> intro l <;> simp [diskWriteSectorUncached, h.writes, h.reads]

lemma Device.Healthy.read (h : d.Healthy) (lba : Nat) :
    diskReadSectorUncached d lba = some (d.sectors lba) := by
  rw [h.toFaultless.read, h.contents]

lemma Device.Healthy.sectors_write (h : d.Healthy) (lba : Nat) (buffer : Sector) :
    (diskWriteSectorUncached d lba buffer).sectors = Function.update d.sectors lba buffer := by
  simp [diskWriteSectorUncached, h.writes, h.whole]

lemma Device.Healthy.write (h : d.Healthy) (lba : Nat) (buffer : Sector) :
    (diskWriteSectorUncached d lba buffer).Healthy where
  toFaultless := h.toFaultless.write lba buffer
  whole l := by
    rw [Device.sectorOf, diskWriteSectorUncached_backend]
    exact h.whole l

structure CacheLine where
  valid : Bool
  dirty : Bool
  ref : Bool
  lba : Nat
  data : Sector

structure PageCache where
  lines : Fin 32 → CacheLine
  clockHand : Fin 32
  cacheInitialized : Bool

/-- The disk as the kernel sees it: the device and the cache in front of it. -/
structure Disk where
  dev : Device
  cache : PageCache

/-- The static storage of the cache before its first use. -/
def PageCache.boot : PageCache where
  lines := fun _ => ⟨false, false, false, 0, Bytes.zero⟩
  clockHand := 0
  cacheInitialized := false

def Disk.boot (dev : Device) : Disk := ⟨dev, PageCache.boot⟩

abbrev Disk.line (s : Disk) (i : Fin 32) : CacheLine := s.cache.lines i

def Disk.setLine (s : Disk) (i : Fin 32) (l : CacheLine) : Disk :=
  { s with cache := { s.cache with lines := Function.update s.cache.lines i l } }

@[simp] lemma Disk.setLine_dev (s : Disk) (i : Fin 32) (l : CacheLine) :
    (s.setLine i l).dev = s.dev := rfl

@[simp] lemma Disk.setLine_cacheInitialized (s : Disk) (i : Fin 32) (l : CacheLine) :
    (s.setLine i l).cache.cacheInitialized = s.cache.cacheInitialized := rfl

@[simp] lemma Disk.line_setLine_same (s : Disk) (i : Fin 32) (l : CacheLine) :
    (s.setLine i l).line i = l := by
  simp [Disk.setLine, Disk.line]

lemma Disk.line_setLine_of_ne (s : Disk) {i j : Fin 32} (l : CacheLine) (h : j ≠ i) :
    (s.setLine i l).line j = s.line j := by
  simp [Disk.setLine, Disk.line, h]

def findLine (s : Disk) (lba : Nat) : Option (Fin 32) :=
  (List.finRange 32).find? fun i => (s.line i).valid && (s.line i).lba == lba

def flushLine (s : Disk) (idx : Fin 32) : Disk :=
  if (s.line idx).valid && (s.line idx).dirty then
    { s with dev := diskWriteSectorUncached s.dev (s.line idx).lba (s.line idx).data }.setLine idx
      { s.line idx with dirty := false }
  else s

/-- Flush a line and give it up, as both exits of `pick_victim_line` do. -/
def evictLine (s : Disk) (idx : Fin 32) : Disk :=
  (flushLine s idx).setLine idx { (flushLine s idx).line idx with valid := false }

/-- The loop of `pick_victim_line` with `fuel` rounds left. -/
def pickVictimLoop : Nat → Disk → Disk × Fin 32
  | 0, s => (evictLine s s.cache.clockHand, s.cache.clockHand)
  | fuel + 1, s =>
    let idx := s.cache.clockHand
    let s := { s with cache := { s.cache with clockHand := idx + 1 } }
    if !(s.line idx).valid then (s, idx)
    else if (s.line idx).ref then pickVictimLoop fuel (s.setLine idx { s.line idx with ref := false })
    else (evictLine s idx, idx)

def pickVictimLine (s : Disk) : Disk × Fin 32 := pickVictimLoop (32 * 2) s

def pageCacheInit (s : Disk) : Disk :=
  if s.cache.cacheInitialized then s
  else { s with cache :=
    { lines := fun i => { s.line i with valid := false, dirty := false, ref := false, lba := 0 }
      clockHand := 0
      cacheInitialized := true } }

def pageCacheReadSector (s : Disk) (lba : Nat) : Disk × Option Sector :=
  let s := pageCacheInit s
  match findLine s lba with
  | some idx => (s.setLine idx { s.line idx with ref := true }, some (s.line idx).data)
  | none =>
    let (s, idx) := pickVictimLine s
    match diskReadSectorUncached s.dev lba with
    | none =>
      (s.setLine idx { s.line idx with valid := false, dirty := false, ref := false }, none)
    | some data =>
      (s.setLine idx { valid := true, dirty := false, ref := true, lba := lba, data := data },
        some data)

def pageCacheWriteSector (s : Disk) (lba : Nat) (buffer : Sector) : Disk :=
  let s := pageCacheInit s
  match findLine s lba with
  | some idx => s.setLine idx { s.line idx with data := buffer, dirty := true, ref := true }
  | none =>
    let (s, idx) := pickVictimLine s
    s.setLine idx { valid := true, dirty := true, ref := true, lba := lba, data := buffer }

def pageCacheFlushAll (s : Disk) : Disk :=
  (List.finRange 32).foldl flushLine (pageCacheInit s)

/-- The buffer keeps what it held when the read fails. -/
def diskReadSector (s : Disk) (lba : Nat) (buffer : Sector) : Disk × Sector :=
  ((pageCacheReadSector s lba).1, (pageCacheReadSector s lba).2.getD buffer)

def diskWriteSector (s : Disk) (lba : Nat) (buffer : Sector) : Disk :=
  pageCacheWriteSector s lba buffer

end NeuroSpark
