import NeuroSpark.Disk.Gpt

/-!
# What a scan of a GUID partition table reads and reports

The scan goes up to some entry, and what it reads and reports is put together from the entries
before it. It stays in its buffers as long as the entries do, and its records are exact as long as
the numbers on the disk fit into 32 bits.
-/

namespace NeuroSpark

variable {d : Device} {behind : Nat → Nat → UInt8} {h : GptHeader} {buf : Nat → UInt8}

lemma compareBytes_reads_of_eq {off : Nat} {cs : List UInt8}
    (heq : (compareBytes buf off cs).1 = true) :
    (compareBytes buf off cs).2 = List.range' off cs.length := by
  induction cs generalizing off with
  | nil => rfl
  | cons c cs ih =>
    by_cases hne : buf off ≠ c
    · rw [compareBytes, if_pos hne] at heq
      cases heq
    · rw [compareBytes, if_neg hne] at heq ⊢
      exact congrArg (off :: ·) (ih heq)

lemma mem_compareBytes {off k : Nat} {cs : List UInt8} (hk : k ∈ (compareBytes buf off cs).2) :
    off ≤ k ∧ k < off + cs.length := by
  induction cs generalizing off with
  | nil => cases hk
  | cons c cs ih =>
    rw [compareBytes] at hk
    rw [List.length_cons]
    split_ifs at hk with hne
    · rw [List.mem_singleton.1 hk]
      omega
    · rcases List.mem_cons.1 hk with rfl | hk
      · omega
      · have hrest := ih hk
        omega

lemma readEntry_reads_iff (buf : Nat → UInt8) (off : Nat) :
    (∀ k ∈ (readEntry buf off).2, k < 512) ↔
      off + (if (guidIsZero buf (off + 16)).1 then 32 else 48) ≤ 512 := by
  have hguid : ∀ k ∈ (guidIsZero buf (off + 16)).2, k < off + 32 := fun k hk => by
    have hlt := (mem_compareBytes hk).2
    rw [List.length_replicate] at hlt
    omega
  by_cases hzero : (guidIsZero buf (off + 16)).1 = true
  · have hreads : (readEntry buf off).2 = List.range' (off + 16) 16 := by
      rw [readEntry, if_pos hzero]
      exact compareBytes_reads_of_eq hzero
    rw [if_pos hzero, hreads]
    constructor
    · intro hall
      have hlast := hall (off + 31) (by rw [List.mem_range'_1]; omega)
      omega
    · intro hle k hk
      rw [List.mem_range'_1] at hk
      omega
  · have hreads : (readEntry buf off).2 = (guidIsZero buf (off + 16)).2 ++
        List.range' (off + 32) 8 ++ List.range' (off + 40) 8 := by
      simp only [readEntry, if_neg hzero]
      split_ifs <;> rfl
    rw [if_neg hzero, hreads]
    constructor
    · intro hall
      have hlast := hall (off + 47) (List.mem_append_right _ (by rw [List.mem_range'_1]; omega))
      omega
    · intro hle k hk
      rcases List.mem_append.1 hk with hk | hk
      · rcases List.mem_append.1 hk with hk | hk
        · have hlt := hguid k hk
          omega
        · rw [List.mem_range'_1] at hk
          omega
      · rw [List.mem_range'_1] at hk
        omega

section

variable (d : Device) (behind : Nat → Nat → UInt8) (h : GptHeader)

/-- The sector of an entry can be read. -/
def EntryReadable (i : Nat) : Prop := d.readFault (d.sectorOf (h.sectorOf i)) = false

/-- The buffer in which an entry is looked at. -/
def entryBuffer (i : Nat) : Nat → UInt8 := bufferOf (d.contents (h.sectorOf i)) (behind i)

def entryRecord (i : Nat) : Option PartitionEntry :=
  (readEntry (entryBuffer d behind h i) (h.entryOffset i)).1

/-- The number of records of the entries before one. -/
def recordedBefore (k : Nat) : Nat :=
  (List.range k).countP fun i => (entryRecord d behind h i).isSome

/-- What the scan has done when it comes to an entry. -/
def scannedBefore (reads : List Nat) (k : Nat) : GptScan where
  records := (List.range k).flatMap fun i =>
    ((entryRecord d behind h i).map fun out => ⟨i, h.sectorOf i, out⟩).toList
  reads := reads ++ (List.range k).flatMap fun i =>
    (readEntry (entryBuffer d behind h i) (h.entryOffset i)).2

end

lemma scanEntry_of_readable {i : Nat} (hi : EntryReadable d h i) :
    scanEntry d behind h i = some (readEntry (entryBuffer d behind h i) (h.entryOffset i)) := by
  simp [scanEntry, diskReadSectorUncached, EntryReadable.eq_1 d h i ▸ hi, entryBuffer]

lemma scanEntry_eq_none {i : Nat} (hi : ¬ EntryReadable d h i) : scanEntry d behind h i = none := by
  have hfault : d.readFault (d.sectorOf (h.sectorOf i)) = true := by
    simpa [EntryReadable] using hi
  simp [scanEntry, diskReadSectorUncached, hfault]

lemma recordedBefore_succ (k : Nat) : recordedBefore d behind h (k + 1) =
    recordedBefore d behind h k + if (entryRecord d behind h k).isSome then 1 else 0 := by
  simp [recordedBefore, List.range_succ, List.countP_append, List.countP_singleton]

lemma recordedBefore_mono {j k : Nat} (hjk : j ≤ k) :
    recordedBefore d behind h j ≤ recordedBefore d behind h k := by
  induction k, hjk using Nat.le_induction with
  | base => exact le_rfl
  | succ k _ ih =>
    rw [recordedBefore_succ]
    omega

lemma length_scannedBefore (reads : List Nat) (k : Nat) :
    (scannedBefore d behind h reads k).records.length = recordedBefore d behind h k := by
  induction k with
  | zero => rfl
  | succ k ih =>
    rw [recordedBefore_succ, ← ih]
    simp only [scannedBefore, List.range_succ, List.flatMap_append, List.length_append]
    cases hrecord : entryRecord d behind h k <;> simp [hrecord]

lemma scannedBefore_succ (reads : List Nat) (k : Nat) :
    (scannedBefore d behind h reads k).add h k
      (readEntry (entryBuffer d behind h k) (h.entryOffset k)) =
      scannedBefore d behind h reads (k + 1) := by
  simp [scannedBefore, GptScan.add, List.range_succ, entryRecord]

/-! ### How far the scan goes -/

/-- The scan comes to the end of what it does before an entry: all entries before it were read, with
room for their records, and it goes no further. -/
structure StopsAt (d : Device) (behind : Nat → Nat → UInt8) (h : GptHeader) (maxEntries k : Nat)
    (ok : Bool) : Prop where
  le : k ≤ h.entryCount
  readable : ∀ j < k, EntryReadable d h j
  room : ∀ j < k, recordedBefore d behind h j < maxEntries
  done : ok = true → k = h.entryCount ∨ maxEntries ≤ recordedBefore d behind h k
  failed : ok = false → k < h.entryCount ∧ recordedBefore d behind h k < maxEntries ∧
    ¬ EntryReadable d h k

variable (d behind) in
lemma scanEntries_spec (maxEntries : Nat) (reads : List Nat) (remaining i : Nat)
    (hcount : i + remaining = h.entryCount) (hreadable : ∀ j < i, EntryReadable d h j)
    (hroom : ∀ j < i, recordedBefore d behind h j < maxEntries) :
    ∃ k, StopsAt d behind h maxEntries k
        (scanEntries d behind h maxEntries remaining i (scannedBefore d behind h reads i)).2 ∧
      (scanEntries d behind h maxEntries remaining i (scannedBefore d behind h reads i)).1 =
        scannedBefore d behind h reads k := by
  induction remaining generalizing i with
  | zero =>
    refine ⟨i, ⟨by omega, hreadable, hroom, fun _ => Or.inl (by omega), fun hfalse => ?_⟩, rfl⟩
    cases hfalse
  | succ remaining ih =>
    rw [scanEntries, length_scannedBefore]
    by_cases hfull : maxEntries ≤ recordedBefore d behind h i
    · rw [if_pos hfull]
      refine ⟨i, ⟨by omega, hreadable, hroom, fun _ => Or.inr hfull, fun hfalse => ?_⟩, rfl⟩
      cases hfalse
    · rw [if_neg hfull]
      by_cases hi : EntryReadable d h i
      · rw [scanEntry_of_readable hi]
        simp only
        rw [scannedBefore_succ]
        refine ih (i + 1) (by omega) (fun j hj => ?_) fun j hj => ?_
        · rcases Nat.lt_succ_iff_lt_or_eq.1 hj with hlt | rfl
          · exact hreadable j hlt
          · exact hi
        · rcases Nat.lt_succ_iff_lt_or_eq.1 hj with hlt | rfl
          · exact hroom j hlt
          · exact not_le.1 hfull
      · rw [scanEntry_eq_none hi]
        exact ⟨i, ⟨by omega, hreadable, hroom, fun htrue => (by cases htrue),
          fun _ => ⟨by omega, not_le.1 hfull, hi⟩⟩, rfl⟩

section

variable (d : Device) (behind : Nat → Nat → UInt8) (h : GptHeader) (maxEntries : Nat)

/-- The scan looks at an entry: it and those before it can be read, and there is room for it. -/
def Examined (i : Nat) : Prop :=
  i < h.entryCount ∧ recordedBefore d behind h i < maxEntries ∧ ∀ j ≤ i, EntryReadable d h j

/-- All entries that the scan wants to look at can be read. -/
def Completes : Prop :=
  ∀ i < h.entryCount, recordedBefore d behind h i < maxEntries → EntryReadable d h i

end

variable {maxEntries k : Nat} {ok : Bool}

lemma StopsAt.examined_iff (hstop : StopsAt d behind h maxEntries k ok) {i : Nat} :
    Examined d behind h maxEntries i ↔ i < k := by
  constructor
  · rintro ⟨hi, hroom, hreadable⟩
    by_contra hki
    have hle : k ≤ i := not_lt.1 hki
    have hmono : recordedBefore d behind h k ≤ recordedBefore d behind h i :=
      recordedBefore_mono hle
    cases ok with
    | true => rcases hstop.done rfl with heq | hfull <;> omega
    | false => exact (hstop.failed rfl).2.2 (hreadable k hle)
  · intro hi
    have hle := hstop.le
    exact ⟨by omega, hstop.room i hi, fun j hj => hstop.readable j (by omega)⟩

lemma StopsAt.completes_iff (hstop : StopsAt d behind h maxEntries k ok) :
    Completes d behind h maxEntries ↔ ok = true := by
  constructor
  · intro hcompletes
    by_contra hfalse
    obtain ⟨hlt, hroom, hfault⟩ := hstop.failed (Bool.not_eq_true _ ▸ hfalse)
    exact hfault (hcompletes k hlt hroom)
  · rintro rfl i hi hroom
    by_cases hik : i < k
    · exact hstop.readable i hik
    · have hmono : recordedBefore d behind h k ≤ recordedBefore d behind h i :=
        recordedBefore_mono (not_lt.1 hik)
      rcases hstop.done rfl with heq | hfull <;> omega

section

variable (d : Device) (h : GptHeader)

/-- Where the table is, as the header has it. -/
def tableLba : Nat := readLe64 (d.contents 1).get 72

/-- The first LBA of an entry in a sector. -/
def firstLbaAt (sector i : Nat) : Nat := readLe64 (d.contents sector).get (h.entryOffset i + 32)

/-- The last LBA of an entry in a sector. -/
def lastLbaAt (sector i : Nat) : Nat := readLe64 (d.contents sector).get (h.entryOffset i + 40)

/-- A record says what its entry in the table does. -/
structure GptRecord.Exact (r : GptRecord) : Prop where
  sector : r.sector = tableLba d + r.entry / h.entriesPerSector
  lbaStart : r.out.lbaStart = firstLbaAt d h r.sector r.entry
  sectorCount : r.out.sectorCount =
    lastLbaAt d h r.sector r.entry - firstLbaAt d h r.sector r.entry + 1

/-- The numbers of an entry fit into 32 bits. -/
structure FitsIn32 (i : Nat) : Prop where
  sector : tableLba d + i / h.entriesPerSector < 4294967296
  first : firstLbaAt d h (h.sectorOf i) i < 4294967296
  count : lastLbaAt d h (h.sectorOf i) i - firstLbaAt d h (h.sectorOf i) i + 1 < 4294967296

/-- What is read of an entry lies in its sector. -/
def EntryInSector (behind : Nat → Nat → UInt8) (i : Nat) : Prop :=
  h.entryOffset i +
    (if (guidIsZero (entryBuffer d behind h i) (h.entryOffset i + 16)).1 then 32 else 48) ≤ 512

end

variable {off : Nat}

/-- A scan reads its buffers only, writes no more records than there is room for, and those that it
returns are exact. -/
structure ScansExactly (d : Device) (behind : Nat → Nat → UInt8) (outEntries : Bool)
    (maxEntries : Int) : Prop where
  reads : ∀ off ∈ (partitionScanGpt d behind outEntries maxEntries).2.reads, off < 512
  bounded : ((partitionScanGpt d behind outEntries maxEntries).2.records.length : Int) ≤
    max maxEntries 0
  exact : (partitionScanGpt d behind outEntries maxEntries).1 ≠ -1 →
    ∀ h, (readGptHeader d).1 = .ok h →
      ∀ r ∈ (partitionScanGpt d behind outEntries maxEntries).2.records, r.Exact d h

lemma readGptHeader_reads (hoff : off ∈ (readGptHeader d).2) : off < 512 := by
  rw [readGptHeader] at hoff
  have hmbr : ∀ {b : Nat → UInt8}, off ∈ (compareBytes b 510 [0x55, 0xAA]).2 → off < 512 :=
    fun hmem => (mem_compareBytes hmem).2
  have hmagic : ∀ {b : Nat → UInt8},
      off ∈ (compareBytes b 0 [0x45, 0x46, 0x49, 0x20, 0x50, 0x41, 0x52, 0x54]).2 → off < 512 :=
    fun hmem => lt_of_lt_of_le (mem_compareBytes hmem).2 (by simp)
  have hfields : off ∈ List.range' 72 4 ++ List.range' 80 4 ++ List.range' 84 4 → off < 512 := by
    simp only [List.mem_append, List.mem_range'_1]
    omega
  split at hoff
  · simp at hoff
  · simp only at hoff
    split_ifs at hoff
    · split at hoff
      · exact hmbr hoff
      · split_ifs at hoff
        all_goals
          simp only [List.append_assoc, List.mem_append] at hoff hfields
          tauto
    · exact hmbr hoff

lemma readGptHeader_ok (hh : (readGptHeader d).1 = .ok h) :
    h.entryLba = readLe32 (d.contents 1).get 72 ∧ 0 < h.entriesPerSector := by
  rw [readGptHeader] at hh
  split at hh
  · cases hh
  · simp only at hh
    split_ifs at hh
    split at hh
    · cases hh
    · rename_i sector hsector
      split_ifs at hh with hmagic hsize
      cases hh
      rw [diskReadSectorUncached] at hsector
      split_ifs at hsector
      cases hsector
      exact ⟨rfl, Nat.pos_of_ne_zero fun hzero => hsize (Or.inr hzero)⟩

lemma readLe32_lt (off : Nat) : readLe32 buf off < 4294967296 := by
  have h₀ := (buf off).toNat_lt
  have h₁ := (buf (off + 1)).toNat_lt
  have h₂ := (buf (off + 2)).toNat_lt
  have h₃ := (buf (off + 3)).toNat_lt
  rw [readLe32]
  omega

lemma readLe32_congr {buf' : Nat → UInt8} (hbuf : ∀ k, off ≤ k → k < off + 4 → buf k = buf' k) :
    readLe32 buf off = readLe32 buf' off := by
  simp [readLe32, hbuf off (by omega) (by omega), hbuf (off + 1) (by omega) (by omega),
    hbuf (off + 2) (by omega) (by omega), hbuf (off + 3) (by omega) (by omega)]

lemma readLe64_congr {buf' : Nat → UInt8} (hbuf : ∀ k, off ≤ k → k < off + 8 → buf k = buf' k) :
    readLe64 buf off = readLe64 buf' off := by
  rw [readLe64, readLe64, readLe32_congr fun k hle hlt => hbuf k hle (by omega),
    readLe32_congr fun k hle hlt => hbuf k (by omega) (by omega)]

lemma sectorOf_eq_iff (hlba : h.entryLba = readLe32 (d.contents 1).get 72) (i : Nat) :
    h.sectorOf i = tableLba d + i / h.entriesPerSector ↔
      tableLba d + i / h.entriesPerSector < 4294967296 := by
  have hlow : tableLba d % 4294967296 = h.entryLba := by
    rw [hlba, tableLba, readLe64, Nat.add_mul_mod_self_left]
    exact Nat.mod_eq_of_lt (readLe32_lt 72)
  have hsector : h.sectorOf i = (tableLba d + i / h.entriesPerSector) % 4294967296 := by
    rw [GptHeader.sectorOf, ← hlow, Nat.mod_add_mod]
  rw [hsector]
  exact ⟨fun heq => heq ▸ Nat.mod_lt _ (by decide), Nat.mod_eq_of_lt⟩

lemma readEntry_eq_some {out : PartitionEntry} (hout : (readEntry buf off).1 = some out) :
    (guidIsZero buf (off + 16)).1 = false ∧
      out.lbaStart = readLe64 buf (off + 32) % 4294967296 ∧
      out.sectorCount = (readLe64 buf (off + 40) - readLe64 buf (off + 32) + 1) % 4294967296 := by
  simp only [readEntry] at hout
  split_ifs at hout with hzero hlast
  cases hout
  refine ⟨Bool.not_eq_true _ ▸ hzero, rfl, ?_⟩
  exact Nat.mod_mod_of_dvd _ (by decide)

lemma entryBuffer_eq {i k : Nat} (hk : k < 512) :
    entryBuffer d behind h i k = (d.contents (h.sectorOf i)).get k := if_pos hk

lemma exact_record_iff (hlba : h.entryLba = readLe32 (d.contents 1).get 72) {i : Nat}
    {out : PartitionEntry} (hin : EntryInSector d h behind i)
    (hout : entryRecord d behind h i = some out) :
    GptRecord.Exact d h ⟨i, h.sectorOf i, out⟩ ↔ FitsIn32 d h i := by
  obtain ⟨hguid, hstart, hcount⟩ := readEntry_eq_some hout
  have hle : h.entryOffset i + 48 ≤ 512 := by
    rw [EntryInSector, hguid] at hin
    exact hin
  have hfirst : readLe64 (entryBuffer d behind h i) (h.entryOffset i + 32) =
      firstLbaAt d h (h.sectorOf i) i :=
    readLe64_congr fun k _ hk => entryBuffer_eq (by omega)
  have hlast : readLe64 (entryBuffer d behind h i) (h.entryOffset i + 40) =
      lastLbaAt d h (h.sectorOf i) i :=
    readLe64_congr fun k _ hk => entryBuffer_eq (by omega)
  rw [hfirst] at hstart hcount
  rw [hlast] at hcount
  have hmod : ∀ m : Nat, m % 4294967296 = m ↔ m < 4294967296 := fun m =>
    ⟨fun heq => heq ▸ Nat.mod_lt _ (by decide), Nat.mod_eq_of_lt⟩
  constructor
  · intro hexact
    exact ⟨(sectorOf_eq_iff hlba i).1 hexact.sector, (hmod _).1 (hstart ▸ hexact.lbaStart),
      (hmod _).1 (hcount ▸ hexact.sectorCount)⟩
  · intro hfits
    exact ⟨(sectorOf_eq_iff hlba i).2 hfits.sector, hstart.trans ((hmod _).2 hfits.first),
      hcount.trans ((hmod _).2 hfits.count)⟩

/-! ### What the scan does -/

variable {outEntries : Bool}

variable (behind) in
lemma partitionScanGpt_of_header {m : Int} (hm : outEntries = true ∧ 0 < m)
    (hh : (readGptHeader d).1 = .ok h) :
    ∃ k ok, StopsAt d behind h m.toNat k ok ∧ partitionScanGpt d behind outEntries m =
      (if ok then (recordedBefore d behind h k : Int) else -1,
        scannedBefore d behind h (readGptHeader d).2 k) := by
  have hsome : (readGptHeader d) = (.ok h, (readGptHeader d).2) := Prod.ext hh rfl
  obtain ⟨k, hstop, hscan⟩ := scanEntries_spec d behind (h := h) m.toNat (readGptHeader d).2
    h.entryCount 0 (by omega) (by simp) (by simp)
  refine ⟨k, _, hstop, ?_⟩
  rw [partitionScanGpt, if_neg (by simp [hm.1, hm.2]), hsome]
  simp only
  have hstart : scannedBefore d behind h (readGptHeader d).2 0 = ⟨[], (readGptHeader d).2⟩ := by
    simp [scannedBefore]
  rw [← hstart, hscan, length_scannedBefore]

variable (d behind) in
lemma partitionScanGpt_of_no_header (outEntries : Bool) (m : Int)
    (hno : ¬ (outEntries = true ∧ 0 < m) ∨ ∀ h, (readGptHeader d).1 ≠ .ok h) :
    (partitionScanGpt d behind outEntries m).2.records = [] ∧
      ∀ off ∈ (partitionScanGpt d behind outEntries m).2.reads, off < 512 := by
  rw [partitionScanGpt]
  split_ifs with hargs
  · exact ⟨rfl, fun off hoff => (by cases hoff)⟩
  · rcases hheader : readGptHeader d with ⟨result | h, reads⟩
    · refine ⟨rfl, fun off hoff => readGptHeader_reads (d := d) ?_⟩
      rw [hheader]
      exact hoff
    · exfalso
      rcases hno with hno | hno
      · exact hno (by simpa using hargs)
      · exact hno h (by rw [hheader])

variable {reads : List Nat}

lemma scannedBefore_reads_iff (hreads : ∀ off ∈ reads, off < 512) :
    (∀ off ∈ (scannedBefore d behind h reads k).reads, off < 512) ↔
      ∀ i < k, EntryInSector d h behind i := by
  have hiff : ∀ i, EntryInSector d h behind i ↔
      ∀ off ∈ (readEntry (entryBuffer d behind h i) (h.entryOffset i)).2, off < 512 :=
    fun i => (readEntry_reads_iff _ _).symm
  simp only [hiff, scannedBefore, List.mem_append, List.mem_flatMap, List.mem_range]
  constructor
  · intro hall i hi off hoff
    exact hall off (Or.inr ⟨i, hi, hoff⟩)
  · rintro hall off (hoff | ⟨i, hi, hoff⟩)
    · exact hreads off hoff
    · exact hall i hi off hoff

lemma StopsAt.recorded_le (hstop : StopsAt d behind h maxEntries k ok) :
    recordedBefore d behind h k ≤ maxEntries := by
  cases k with
  | zero => exact Nat.zero_le _
  | succ k =>
    have hroom := hstop.room k (Nat.lt_succ_self k)
    rw [recordedBefore_succ]
    split_ifs <;> omega

lemma mem_scannedBefore_records {r : GptRecord} : r ∈ (scannedBefore d behind h reads k).records ↔
      ∃ i < k, ∃ out, entryRecord d behind h i = some out ∧ r = ⟨i, h.sectorOf i, out⟩ := by
  simp [scannedBefore, eq_comm]

lemma scannedBefore_exact_iff (hlba : h.entryLba = readLe32 (d.contents 1).get 72)
    (hin : ∀ i < k, EntryInSector d h behind i) :
    (∀ r ∈ (scannedBefore d behind h reads k).records, r.Exact d h) ↔
      ∀ i < k, (entryRecord d behind h i).isSome → FitsIn32 d h i := by
  constructor
  · intro hexact i hi hsome
    obtain ⟨out, hout⟩ := Option.isSome_iff_exists.1 hsome
    exact (exact_record_iff hlba (hin i hi) hout).1
      (hexact _ (mem_scannedBefore_records.2 ⟨i, hi, out, hout, rfl⟩))
  · intro hfits r hr
    obtain ⟨i, hi, out, hout, rfl⟩ := mem_scannedBefore_records.1 hr
    exact (exact_record_iff hlba (hin i hi) hout).2 (hfits i hi (by simp [hout]))

/-- The condition under which the scan is exact: what it reads of the entries that it looks at lies
in their sectors, and the numbers of those that it returns fit. -/
def TableFits (d : Device) (behind : Nat → Nat → UInt8) (outEntries : Bool) (m : Int) : Prop :=
  outEntries = true ∧ 0 < m → ∀ h, (readGptHeader d).1 = .ok h →
    (∀ i, Examined d behind h m.toNat i → EntryInSector d h behind i) ∧
      (Completes d behind h m.toNat → ∀ i, Examined d behind h m.toNat i →
        (entryRecord d behind h i).isSome → FitsIn32 d h i)

/-- A scan of a partition table stays in its buffers and is exact if and only if the entries lie in
their sectors and their numbers fit. -/
theorem scansExactly_iff (d : Device) (behind : Nat → Nat → UInt8) (outEntries : Bool)
    (maxEntries : Int) : ScansExactly d behind outEntries maxEntries ↔
      TableFits d behind outEntries maxEntries := by
  by_cases hargs : outEntries = true ∧ 0 < maxEntries
  swap
  · obtain ⟨hrecords, hreads⟩ := partitionScanGpt_of_no_header d behind outEntries maxEntries
      (Or.inl hargs)
    refine ⟨fun _ hm => absurd hm hargs, fun _ => ⟨hreads, ?_, fun _ _ _ r hr => ?_⟩⟩
    · simp [hrecords]
    · simp [hrecords] at hr
  by_cases hheader : ∃ h, (readGptHeader d).1 = .ok h
  swap
  · have hno : ∀ h, (readGptHeader d).1 ≠ .ok h := fun h hh => hheader ⟨h, hh⟩
    obtain ⟨hrecords, hreads⟩ := partitionScanGpt_of_no_header d behind outEntries maxEntries
      (Or.inr hno)
    refine ⟨fun _ _ h hh => absurd hh (hno h), fun _ => ⟨hreads, ?_, fun _ h hh => ?_⟩⟩
    · simp [hrecords]
    · exact absurd hh (hno h)
  obtain ⟨h, hh⟩ := hheader
  obtain ⟨k, ok, hstop, hscan⟩ := partitionScanGpt_of_header behind hargs hh
  have hlba := (readGptHeader_ok hh).1
  have hexamined : ∀ i, Examined d behind h maxEntries.toNat i ↔ i < k := fun i =>
    hstop.examined_iff
  have hreads : (∀ off ∈ (scannedBefore d behind h (readGptHeader d).2 k).reads, off < 512) ↔
      ∀ i < k, EntryInSector d h behind i :=
    scannedBefore_reads_iff fun off => readGptHeader_reads
  have hresult : (if ok then (recordedBefore d behind h k : Int) else -1) ≠ -1 ↔ ok = true := by
    cases ok <;> simp
  constructor
  · rintro ⟨hin, -, hexact⟩ - h' hh'
    cases hh.symm.trans hh'
    rw [hscan] at hin hexact
    have hentries := hreads.1 hin
    refine ⟨fun i hi => hentries i ((hexamined i).1 hi), fun hcompletes i hi hsome => ?_⟩
    have hok := hstop.completes_iff.1 hcompletes
    exact (scannedBefore_exact_iff hlba hentries).1 (hexact (hresult.2 hok) h hh) i
      ((hexamined i).1 hi) hsome
  · intro hfits
    obtain ⟨hin, hnumbers⟩ := hfits hargs h hh
    have hentries : ∀ i < k, EntryInSector d h behind i := fun i hi => hin i ((hexamined i).2 hi)
    refine ⟨?_, ?_, ?_⟩
    · rw [hscan]
      exact hreads.2 hentries
    · rw [hscan, length_scannedBefore]
      have hle := hstop.recorded_le
      omega
    · intro hne h' hh' r hr
      cases hh.symm.trans hh'
      rw [hscan] at hne hr
      have hcompletes := hstop.completes_iff.2 (hresult.1 hne)
      exact (scannedBefore_exact_iff hlba hentries).2
        (fun i hi hsome => hnumbers hcompletes i ((hexamined i).2 hi) hsome) r hr

/-- A disk with a table of one entry from LBA `2 ^ 32 + 5` to `2 ^ 32 + 6`. -/
def farTable (lba : Nat) : Sector :=
  match lba with
  | 0 => Bytes.zero.patch 510 [0x55, 0xAA]
  | 1 => ((Bytes.zero.patch 0 [0x45, 0x46, 0x49, 0x20, 0x50, 0x41, 0x52, 0x54]).patch 72 [2]).patch
      80 [1, 0, 0, 0, 128]
  | _ => (Bytes.zero.patch 16 [1]).patch 32 [5, 0, 0, 0, 1, 0, 0, 0, 6, 0, 0, 0, 1, 0, 0, 0]

/-- The record of the entry starts at LBA 5. -/
theorem farTable_truncated : ¬ ScansExactly (Device.ofSectors farTable) (fun _ _ => 0) true 4 := by
  intro hexact
  have hheader : (readGptHeader (Device.ofSectors farTable)).1 = .ok ⟨2, 1, 128⟩ := by
    decide
  have hscan : (partitionScanGpt (Device.ofSectors farTable) (fun _ _ => 0) true 4).2.records =
      [⟨0, 2, ⟨true, 0xEE, 5, 2⟩⟩] := by decide
  have hresult : (partitionScanGpt (Device.ofSectors farTable) (fun _ _ => 0) true 4).1 ≠ -1 := by
    decide
  have hrecord := hexact.exact hresult _ hheader _ (hscan ▸ List.mem_singleton_self _)
  have hstart := hrecord.lbaStart
  revert hstart
  decide

end NeuroSpark
