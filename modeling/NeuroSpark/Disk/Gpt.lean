import NeuroSpark.Disk.PageCache

/-!
# Scanning a GUID partition table

`partition_scan_gpt` of `partition.c`. A sector is read into a buffer of 512 bytes, and offsets into
it are computed from what the disk says; what lies behind the buffer is a parameter. The scan keeps
the offsets that it reads and, of each record, the entry that it was made from.
-/

namespace NeuroSpark

/-- A sector and the bytes behind it. -/
def bufferOf (sector : Sector) (behind : Nat → UInt8) (k : Nat) : UInt8 :=
  if k < 512 then sector.get k else behind k

variable (buf : Nat → UInt8)

def readLe32 (off : Nat) : Nat :=
  (buf off).toNat + 256 * (buf (off + 1)).toNat + 65536 * (buf (off + 2)).toNat +
    16777216 * (buf (off + 3)).toNat

def readLe64 (off : Nat) : Nat := readLe32 buf off + 4294967296 * readLe32 buf (off + 4)

/-- Bytes are compared with others up to the first that differs; with the offsets that are read. -/
def compareBytes : Nat → List UInt8 → Bool × List Nat
  | _, [] => (true, [])
  | off, c :: cs =>
    if buf off ≠ c then (false, [off])
    else
      let r := compareBytes (off + 1) cs
      (r.1, off :: r.2)

def guidIsZero (off : Nat) : Bool × List Nat := compareBytes buf off (List.replicate 16 0)

structure PartitionEntry where
  valid : Bool
  type : UInt8
  lbaStart : Nat
  sectorCount : Nat
  deriving DecidableEq

/-- What the header says about the entries. -/
structure GptHeader where
  entryLba : Nat
  entryCount : Nat
  entrySize : Nat
  deriving DecidableEq

namespace GptHeader

variable (h : GptHeader)

def entriesPerSector : Nat := 512 / h.entrySize

/-- The sector that is read for an entry. -/
def sectorOf (i : Nat) : Nat := (h.entryLba + i / h.entriesPerSector) % 4294967296

def entryOffset (i : Nat) : Nat := i % h.entriesPerSector * h.entrySize

end GptHeader

/-- A record that was written, with the number of the entry and the sector that it is from. -/
structure GptRecord where
  entry : Nat
  sector : Nat
  out : PartitionEntry
  deriving DecidableEq

/-- The record of an entry, if it is in use, and the offsets that are read. -/
def readEntry (off : Nat) : Option PartitionEntry × List Nat :=
  let guid := guidIsZero buf (off + 16)
  if guid.1 then (none, guid.2)
  else
    let firstLba := readLe64 buf (off + 32)
    let lastLba := readLe64 buf (off + 40)
    let reads := guid.2 ++ List.range' (off + 32) 8 ++ List.range' (off + 40) 8
    if lastLba < firstLba then (none, reads)
    else
      (some
        { valid := true
          type := 0xEE
          lbaStart := firstLba % 4294967296
          sectorCount := (lastLba - firstLba + 1) % 18446744073709551616 % 4294967296 }, reads)

/-- What a scan has done. -/
structure GptScan where
  records : List GptRecord
  reads : List Nat

section

variable (d : Device) (behind : Nat → Nat → UInt8) (h : GptHeader) (maxEntries : Nat)

/-- The record of an entry and the offsets that are read; `none` when its sector cannot be read. -/
def scanEntry (i : Nat) : Option (Option PartitionEntry × List Nat) :=
  (diskReadSectorUncached d (h.sectorOf i)).map fun sector =>
    readEntry (bufferOf sector (behind i)) (h.entryOffset i)

/-- The record of an entry is stored. -/
def GptScan.add (s : GptScan) (i : Nat) (r : Option PartitionEntry × List Nat) : GptScan where
  records := s.records ++ (r.1.map fun out => ⟨i, h.sectorOf i, out⟩).toList
  reads := s.reads ++ r.2

/-- The loop over the entries from `i` on; with `false` when a sector cannot be read. -/
def scanEntries : Nat → Nat → GptScan → GptScan × Bool
  | 0, _, s => (s, true)
  | remaining + 1, i, s =>
    if maxEntries ≤ s.records.length then (s, true)
    else
      match scanEntry d behind h i with
      | none => (s, false)
      | some r => scanEntries remaining (i + 1) (s.add h i r)

end

/-- What the scan goes by before it comes to the entries: the result with which it ends, or the
header, and the offsets that are read. -/
def readGptHeader (d : Device) : Except Int GptHeader × List Nat :=
  match diskReadSectorUncached d 0 with
  | none => (.error (-1), [])
  | some mbr =>
    let signature := compareBytes mbr.get 510 [0x55, 0xAA]
    if ¬ signature.1 then (.error 0, signature.2)
    else
      match diskReadSectorUncached d 1 with
      | none => (.error (-1), signature.2)
      | some sector =>
        let magic := compareBytes sector.get 0 [0x45, 0x46, 0x49, 0x20, 0x50, 0x41, 0x52, 0x54]
        if ¬ magic.1 then (.error 0, signature.2 ++ magic.2)
        else
          let h : GptHeader :=
            { entryLba := readLe32 sector.get 72
              entryCount := readLe32 sector.get 80
              entrySize := readLe32 sector.get 84 }
          let reads := signature.2 ++ magic.2 ++ List.range' 72 4 ++ List.range' 80 4 ++
            List.range' 84 4
          if h.entrySize = 0 ∨ h.entriesPerSector = 0 then (.error 0, reads) else (.ok h, reads)

/-- The result and what was done. -/
def partitionScanGpt (d : Device) (behind : Nat → Nat → UInt8) (outEntries : Bool)
    (maxEntries : Int) : Int × GptScan :=
  if ¬ outEntries ∨ maxEntries ≤ 0 then (-1, ⟨[], []⟩)
  else
    match readGptHeader d with
    | (.error result, reads) => (result, ⟨[], reads⟩)
    | (.ok h, reads) =>
      let r := scanEntries d behind h maxEntries.toNat h.entryCount 0 ⟨[], reads⟩
      (if r.2 then r.1.records.length else -1, r.1)

end NeuroSpark
