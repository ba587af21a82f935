import Mathlib.Data.List.TakeWhile
import NeuroSpark.Tfs.Isolation

/-!
# The host tool that puts files on the disk

`tools/tfs_inject.py` writes a host file into a disk image and enters it in the directory. It has
its own reading of the directory: the 21 entries that fit in the sector, names compared exactly and
with all their characters. The kernel compares the first 11 characters, without case, and takes the
first entry that agrees.
-/

namespace NeuroSpark

open Function (update update_self update_of_ne)
open Word

variable {e : InjectEntry} {i : Fin 21}

/-! ### The tool -/

/-- A raw image: the contents of its sectors, and how many it has. -/
structure DiskImage where
  sectors : Nat → Sector
  imageSectors : Nat

/-- A directory entry as the tool holds it. -/
structure InjectEntry where
  name : CString
  lba : Nat
  size : Nat
  flags : Nat
  deriving DecidableEq

def safeDataLbaStart : Nat := 2048

def kernelReservedEndLba : Nat := 635

/-- Decoding ignores the bytes that are not ASCII. -/
def decodeEntry (sec : Sector) (off : Nat) : InjectEntry where
  name := (cString (sec.slice off 12)).filter (· < 128)
  lba := sec.le32 (off + 12)
  size := sec.le32 (off + 16)
  flags := sec.le32 (off + 20)

/-- Packing fails for a number of more than 32 bits. -/
def encodeEntry (e : InjectEntry) : Option (List UInt8) :=
  let nameB := (e.name.filter (· < 128)).take 11
  if e.lba < 4294967296 ∧ e.size < 4294967296 ∧ e.flags < 4294967296 then
    some (nameB ++ List.replicate (12 - nameB.length) 0 ++ Le.bytes 4 e.lba ++ Le.bytes 4 e.size ++
      Le.bytes 4 e.flags)
  else none

def loadEntries (sec : Sector) (i : Fin 21) : InjectEntry := decodeEntry sec (24 * i)

/-- Every entry is written again, also those that the tool does not change. -/
def storeEntries (sec : Sector) (entries : Fin 21 → InjectEntry) : Option Sector :=
  (List.finRange 21).foldlM (fun sec i => (encodeEntry (entries i)).map fun raw =>
    sec.patch (24 * i) raw) sec

/-- One round of the loop in `_find_last_used_lba`. -/
def laterEnd (last : Nat) (e : InjectEntry) : Nat :=
  if e.flags ≠ 1 ∨ e.size = 0 then last
  else
    let endLba := e.lba + max 1 ((e.size + 511) / 512) - 1
    if endLba > last then endLba else last

def findLastUsedLba (entries : Fin 21 → InjectEntry) : Nat :=
  let last := (List.finRange 21).foldl (fun last i => laterEnd last (entries i))
    (safeDataLbaStart - 1)
  if last < safeDataLbaStart - 1 then safeDataLbaStart - 1 else last

/-- The active entry of that very name, or else the first entry that is not active. -/
def targetSlot (entries : Fin 21 → InjectEntry) (guestName : CString) : Option (Fin 21) :=
  ((List.finRange 21).find? fun i => (entries i).flags == 1 && (entries i).name == guestName).or
    ((List.finRange 21).find? fun i => (entries i).flags != 1)

/-- The sector of the host file with number `i`, filled up with zeros. -/
def hostChunk (data : List UInt8) (i : Nat) : Sector :=
  Bytes.zero.patch 0 ((data.drop (512 * i)).take 512)

def writeChunks (sectors : Nat → Sector) (startLba : Nat) (data : List UInt8) (n : Nat) :
    Nat → Sector :=
  (List.range n).foldl (fun sectors i => Function.update sectors (startLba + i) (hostChunk data i))
    sectors

def DiskImage.entries (img : DiskImage) : Fin 21 → InjectEntry :=
  loadEntries (img.sectors tfsDirLba)

/-- The sector where the tool puts the data of the next file. -/
def DiskImage.startLba (img : DiskImage) : Nat :=
  max safeDataLbaStart (max (kernelReservedEndLba + 1) (findLastUsedLba img.entries + 1))

/-- `main`, from the check of the host file's size on; `none` is a run that reports an error. -/
def tfsInject (img : DiskImage) (data : List UInt8) (guestName : CString) : Option DiskImage :=
  if data = [] then none
  else if img.imageSectors ≤ tfsDirLba then none
  else
    (targetSlot img.entries guestName).bind fun slot =>
      let sectorsNeeded := (data.length + 511) / 512
      let endLba := img.startLba + sectorsNeeded - 1
      if img.imageSectors ≤ endLba then none
      else
        let sectors := writeChunks img.sectors img.startLba data sectorsNeeded
        let entries := Function.update img.entries slot ⟨guestName, img.startLba, data.length, 1⟩
        (storeEntries (img.sectors tfsDirLba) entries).map fun dir =>
          { img with sectors := Function.update sectors tfsDirLba dir }

/-- Open a file for reading on a freshly booted kernel and read `n` bytes. -/
def tfsReadFile (sectors : Nat → Sector) (path : CString) (n : Nat) :
    Except VfsError (List UInt8) :=
  let r := tfsOpen (Tfs.boot sectors) path vfsORdonly
  match r.2 with
  | .error e => .error e
  | .ok h => (tfsRead r.1 h n).2

/-- The directory in memory after `tfs_open` has loaded it. -/
def loadedDirectory (dir : Sector) : TfsDirectory := (Bytes.zero : TfsDirectory).overlay dir

lemma tfsReadFile_eq (sectors : Nat → Sector) {path nm : CString} {n : Nat}
    (hnm : normalizeTfsName path = some nm) {i : Fin 25}
    (hi : tfsFindEntryByName (loadedDirectory (sectors tfsDirLba)) nm = some i) (hn : n ≠ 0) :
    tfsReadFile sectors path n =
      .ok ((List.range (min n ((loadedDirectory (sectors tfsDirLba)).size i))).map fun k =>
        (sectors (u32 ((loadedDirectory (sectors tfsDirLba)).lba i + k / 512))).get (k % 512)) := by
  obtain ⟨hready, hview, hdir⟩ := Tfs.loadDirectory_spec (Tfs.sane_boot sectors).ready
  rw [show (Tfs.boot sectors).disk.view = sectors from Disk.view_boot _] at hview hdir
  change _ = loadedDirectory (sectors tfsDirLba) at hdir
  set s := (Tfs.boot sectors).loadDirectory with hs
  have halloc : tfsAllocHandle s = some 0 := by
    rfl
  have hopen : tfsOpen (Tfs.boot sectors) path vfsORdonly =
      (s.setHandle 0 ⟨true, 1, i, 0, vfsORdonly⟩, .ok 0) := by
    have htrunc : ¬ vfsORdonly &&& vfsOTrunc ≠ 0 := by decide
    simp only [tfsOpen, hnm, ← hs, hdir, hi, tfsOpenEntry, if_neg htrunc, halloc]
    rfl
  have hreadable : tfsReadable vfsORdonly := by decide
  obtain ⟨-, -, hread⟩ := tfsRead_bytes (s := s.setHandle 0 ⟨true, 1, i, 0, vfsORdonly⟩) hready
    (h := 0) ⟨by decide, by simp [Tfs.handles_setHandle_same]⟩ hn
    (by exact hreadable)
  simp only [Tfs.handles_setHandle_same, Tfs.setHandle_disk, Tfs.setHandle_rootDirectory, hview,
    hdir, Nat.sub_zero, Nat.zero_add] at hread
  simp only [tfsReadFile, hopen, hread]

/-! ### The directory that the tool writes -/

lemma length_of_encodeEntry {raw : List UInt8} (h : encodeEntry e = some raw) :
    raw.length = 24 := by
  unfold encodeEntry at h
  split_ifs at h
  cases h
  simp only [List.length_append, List.length_replicate, Le.length_bytes]
  have := List.length_take_le 11 (e.name.filter (· < 128))
  omega

lemma foldlM_storeEntry_spec (entries : Fin 21 → InjectEntry) {l : List (Fin 21)} (hl : l.Nodup)
    {sec dir : Sector}
    (h : l.foldlM (fun sec i => (encodeEntry (entries i)).map fun raw => sec.patch (24 * i) raw)
      sec = some dir) :
    (∀ i ∈ l, encodeEntry (entries i) = some (dir.slice (24 * i) 24)) ∧
      ∀ i ∉ l, dir.slice (24 * i) 24 = sec.slice (24 * i) 24 := by
  induction l generalizing sec with
  | nil =>
    cases h
    simp
  | cons a l ih =>
    simp only [List.foldlM_cons, Option.bind_eq_bind, Option.bind_eq_some_iff,
      Option.map_eq_some_iff] at h
    obtain ⟨_, ⟨raw, hraw, rfl⟩, hrest⟩ := h
    obtain ⟨ha, hl⟩ := List.nodup_cons.1 hl
    obtain ⟨hin, hout⟩ := ih hl hrest
    have hlen := length_of_encodeEntry hraw
    refine ⟨fun i hi => ?_, fun i hi => ?_⟩
    · rcases List.mem_cons.1 hi with rfl | hi
      · have hslice := Bytes.slice_patch_same sec (24 * i) raw (by omega)
        rw [hlen] at hslice
        rw [hout i ha, hslice, hraw]
      · exact hin i hi
    · obtain ⟨hne, hi⟩ := not_or.1 (mt List.mem_cons.2 hi)
      rw [hout i hi]
      refine Bytes.slice_patch_disjoint sec _ _ _ _ ?_
      omega

lemma encodeEntry_of_storeEntries {entries : Fin 21 → InjectEntry} {sec dir : Sector}
    (h : storeEntries sec entries = some dir) (i : Fin 21) :
    encodeEntry (entries i) = some (dir.slice (24 * i) 24) :=
  (foldlM_storeEntry_spec entries (List.nodup_finRange 21) h).1 i (List.mem_finRange i)

/-- The slot of the kernel's directory with the same number. -/
def kernelSlot (i : Fin 21) : Fin 25 := i.castLE (by decide)

lemma slice_loadedDirectory (dir : Sector) (i : Fin 21) :
    (loadedDirectory dir).slice (24 * i) 24 = dir.slice (24 * i) 24 := by
  apply List.map_congr_left
  intro k hk
  rw [List.mem_range] at hk
  rw [loadedDirectory, Bytes.overlay, Bytes.get_ofFun _ (by omega), if_pos (by omega)]

lemma cString_append_zeros {l : List UInt8} (hl : 0 ∉ l) (n : Nat) :
    cString (l ++ List.replicate (n + 1) 0) = l := by
  have hne : ∀ a ∈ l, decide (a ≠ 0) = true := by
    intro a ha
    simp only [decide_eq_true_eq]
    rintro rfl
    exact hl ha
  rw [cString, List.takeWhile_append_of_pos hne]
  simp [List.replicate_succ]

lemma encodeEntry_eq_slice {n : Nat} {b : Bytes n} {off : Nat}
    (he : encodeEntry e = some (b.slice off 24)) :
    b.slice off 12 = (e.name.filter (· < 128)).take 11 ++
        List.replicate (12 - ((e.name.filter (· < 128)).take 11).length) 0 ∧
      b.le32 (off + 12) = e.lba ∧ b.le32 (off + 16) = e.size ∧ b.le32 (off + 20) = e.flags := by
  unfold encodeEntry at he
  split_ifs at he with hlt
  obtain ⟨hlba, hsize, hflags⟩ := hlt
  rw [show 24 = 12 + 4 + 4 + 4 from rfl, Bytes.slice_add, Bytes.slice_add, Bytes.slice_add,
    Option.some.injEq] at he
  obtain ⟨he, h3⟩ := List.append_inj' he (by simp)
  obtain ⟨he, h2⟩ := List.append_inj' he (by simp)
  obtain ⟨h0, h1⟩ := List.append_inj' he (by simp)
  refine ⟨h0.symm, ?_, ?_, ?_⟩
  · rw [Bytes.le32, ← h1]
    exact Le.value_bytes_of_lt hlba
  · rw [Bytes.le32, show off + 16 = off + (12 + 4) from rfl, ← h2]
    exact Le.value_bytes_of_lt hsize
  · rw [Bytes.le32, show off + 20 = off + (12 + 4 + 4) from rfl, ← h3]
    exact Le.value_bytes_of_lt hflags

lemma loadedDirectory_entry {dir : Sector} (he : encodeEntry e = some (dir.slice (24 * i) 24))
    (hname : 0 ∉ e.name) :
    (loadedDirectory dir).name (kernelSlot i) = (e.name.filter (· < 128)).take 11 ∧
      (loadedDirectory dir).lba (kernelSlot i) = e.lba ∧
      (loadedDirectory dir).size (kernelSlot i) = e.size ∧
      (loadedDirectory dir).flags (kernelSlot i) = e.flags := by
  rw [← slice_loadedDirectory] at he
  obtain ⟨hfield, hlba, hsize, hflags⟩ := encodeEntry_eq_slice he
  refine ⟨?_, hlba, hsize, hflags⟩
  set nameB := (e.name.filter (· < 128)).take 11 with hnameB
  have hlen : nameB.length ≤ 11 := List.length_take_le _ _
  have hnozero : 0 ∉ nameB := fun h => hname (List.mem_filter.1 (List.mem_of_mem_take h)).1
  obtain ⟨n, hn⟩ : ∃ n, 12 - nameB.length = n + 1 := ⟨11 - nameB.length, by omega⟩
  rw [TfsDirectory.name, show 24 * (kernelSlot i : Nat) = 24 * i from rfl, hfield, hn]
  exact cString_append_zeros hnozero n

/-! ### The sectors that the tool writes -/

lemma writeChunks_of_lt (sectors : Nat → Sector) (startLba : Nat) (data : List UInt8) {n k : Nat}
    (hk : k < n) : writeChunks sectors startLba data n (startLba + k) = hostChunk data k := by
  induction n with
  | zero => omega
  | succ n ih =>
    rw [writeChunks, List.range_succ, List.foldl_append]
    change update (writeChunks sectors startLba data n) _ _ _ = _
    by_cases hkn : k = n
    · rw [hkn, update_self]
    · rw [update_of_ne (by omega), ih (by omega)]

lemma writeChunks_of_not_mem (sectors : Nat → Sector) {startLba lba : Nat} (data : List UInt8)
    {n : Nat} (h : lba < startLba ∨ startLba + n ≤ lba) :
    writeChunks sectors startLba data n lba = sectors lba := by
  induction n with
  | zero => rfl
  | succ n ih =>
    rw [writeChunks, List.range_succ, List.foldl_append]
    change update (writeChunks sectors startLba data n) _ _ _ = _
    rw [update_of_ne (by omega), ih (by omega)]

lemma get_hostChunk (data : List UInt8) {k : Nat} (hk : k < data.length) :
    (hostChunk data (k / 512)).get (k % 512) = data[k] := by
  have hlen : k % 512 < ((data.drop (512 * (k / 512))).take 512).length := by
    simp
    omega
  have hget := Bytes.get_patch_of_mem (Bytes.zero : Sector) 0 (k % 512) _ hlen (by omega)
  rw [Nat.zero_add] at hget
  rw [hostChunk, hget, List.getElem_take, List.getElem_drop]
  congr 1
  omega

lemma foldl_laterEnd_le (entries : Fin 21 → InjectEntry) (l : List (Fin 21)) (last : Nat) :
    last ≤ l.foldl (fun last i => laterEnd last (entries i)) last ∧
      ∀ i ∈ l, (entries i).flags = 1 → (entries i).size ≠ 0 →
        (entries i).lba + ((entries i).size + 511) / 512 ≤
          l.foldl (fun last i => laterEnd last (entries i)) last + 1 := by
  induction l generalizing last with
  | nil => simp
  | cons a l ih =>
    have hstep : last ≤ laterEnd last (entries a) ∧ ((entries a).flags = 1 →
        (entries a).size ≠ 0 → (entries a).lba + ((entries a).size + 511) / 512 ≤
          laterEnd last (entries a) + 1) := by
      unfold laterEnd
      grind
    obtain ⟨hle, hmem⟩ := ih (laterEnd last (entries a))
    refine ⟨hstep.1.trans hle, fun i hi hflags hsize => ?_⟩
    rcases List.mem_cons.1 hi with rfl | hi
    · exact (hstep.2 hflags hsize).trans (Nat.succ_le_succ hle)
    · exact hmem i hi hflags hsize

lemma DiskImage.end_le_startLba (img : DiskImage) (hflags : (img.entries i).flags = 1)
    (hsize : (img.entries i).size ≠ 0) :
    (img.entries i).lba + ((img.entries i).size + 511) / 512 ≤ img.startLba := by
  have h := (foldl_laterEnd_le img.entries (List.finRange 21) (safeDataLbaStart - 1)).2 i
    (List.mem_finRange i) hflags hsize
  rw [DiskImage.startLba, findLastUsedLba]
  grind

lemma DiskImage.lba_lt_startLba (img : DiskImage) (hflags : (img.entries i).flags = 1)
    (hsize : (img.entries i).size ≠ 0) : (img.entries i).lba < img.startLba := by
  have h := img.end_le_startLba hflags hsize
  omega

/-- The entries that the tool writes. -/
def DiskImage.newEntries (img : DiskImage) (guestName : CString) (size : Nat) (slot : Fin 21) :
    Fin 21 → InjectEntry :=
  Function.update img.entries slot ⟨guestName, img.startLba, size, 1⟩

/-- The image with the data of a host file and a new directory. -/
def DiskImage.withFile (img : DiskImage) (data : List UInt8) (dir : Sector) : DiskImage where
  sectors := Function.update (writeChunks img.sectors img.startLba data ((data.length + 511) / 512))
    tfsDirLba dir
  imageSectors := img.imageSectors

/-- What a run that succeeds has done. The directory depends on the length of the host file only. -/
lemma tfsInject_eq_some_iff {img img' : DiskImage} {data : List UInt8} {guestName : CString} :
    tfsInject img data guestName = some img' ↔
      data ≠ [] ∧ tfsDirLba < img.imageSectors ∧
        img.startLba + (data.length + 511) / 512 - 1 < img.imageSectors ∧
        ∃ slot dir, targetSlot img.entries guestName = some slot ∧
          storeEntries (img.sectors tfsDirLba) (img.newEntries guestName data.length slot) =
            some dir ∧
          img' = img.withFile data dir := by
  unfold tfsInject DiskImage.newEntries DiskImage.withFile
  split_ifs with hdata hsectors
  · simp [hdata]
  · simp only [false_iff]
    omega
  · simp only [Option.bind_eq_some_iff]
    constructor
    · rintro ⟨slot, hslot, h⟩
      split_ifs at h with hend
      obtain ⟨dir, hdir, rfl⟩ := Option.map_eq_some_iff.1 h
      exact ⟨hdata, by omega, by omega, slot, dir, hslot, hdir, rfl⟩
    · rintro ⟨-, -, hend, slot, dir, hslot, hdir, rfl⟩
      refine ⟨slot, hslot, ?_⟩
      rw [if_neg (by omega), hdir]
      rfl

/-! ### What the kernel finds -/

/-- A guest name: ASCII, without `/`; arguments of a program have no NUL. -/
structure GuestName where
  chars : CString
  ascii : ∀ c ∈ chars, c ≠ 0 ∧ c < 128 ∧ c ≠ slash

/-- The entry is active and, to the kernel, has the guest name. -/
def DiskImage.Agrees (img : DiskImage) (guestName : CString) (i : Fin 21) : Prop :=
  (img.entries i).flags = 1 ∧
    strCaseEq ((img.entries i).name.take 11) (guestName.take 11) = true

/-- An entry in front of the one that the tool fills has the same name for the kernel. -/
def DiskImage.Shadowed (img : DiskImage) (guestName : CString) : Prop :=
  ∃ slot, targetSlot img.entries guestName = some slot ∧ ∃ i < slot, img.Agrees guestName i

lemma normalizeTfsName_guestName (guestName : GuestName) (h : guestName.chars ≠ []) :
    normalizeTfsName (slash :: guestName.chars) = some (guestName.chars.take 11) := by
  obtain ⟨c, rest, hc⟩ := List.exists_cons_of_ne_nil h
  have hne := guestName.ascii
  rw [hc] at hne ⊢
  have hfirst : c ≠ slash := (hne c (by simp)).2.2
  have hall : (c :: rest).takeWhile (· ≠ slash) = c :: rest :=
    List.takeWhile_eq_self_iff.2 fun a ha => by simpa using (hne a ha).2.2
  have hdrop : (slash :: c :: rest).dropWhile (· = slash) = c :: rest := by
    simp [hfirst]
  rw [normalizeTfsName, hdrop]
  exact congrArg (fun l => some (l.take 11)) hall

lemma DiskImage.newEntries_name (img : DiskImage) (guestName : GuestName) (size : Nat)
    (slot i : Fin 21) :
    0 ∉ (img.newEntries guestName.chars size slot i).name ∧
      (img.newEntries guestName.chars size slot i).name.filter (· < 128) =
        (img.newEntries guestName.chars size slot i).name := by
  unfold DiskImage.newEntries
  by_cases hi : i = slot
  · subst hi
    rw [update_self]
    refine ⟨fun h => (guestName.ascii 0 h).1 rfl, List.filter_eq_self.2 fun c hc => ?_⟩
    simpa using (guestName.ascii c hc).2.1
  · rw [update_of_ne hi, DiskImage.entries, loadEntries, decodeEntry]
    refine ⟨fun h => ?_, by simp [List.filter_filter]⟩
    have hzero := List.mem_takeWhile_imp (List.mem_filter.1 h).1
    simp at hzero

section

variable {img : DiskImage} {guestName : GuestName} {size : Nat} {slot : Fin 21} {dir : Sector}

/-- The first entry that the kernel takes for the guest name is the one that the tool filled, or one
in front of it. -/
lemma tfsFindEntryByName_guestName (hslot : targetSlot img.entries guestName.chars = some slot)
    (hdir : storeEntries (img.sectors tfsDirLba) (img.newEntries guestName.chars size slot) =
      some dir) :
    ∃ i, tfsFindEntryByName (loadedDirectory dir) (guestName.chars.take 11) =
        some (kernelSlot i) ∧
      (loadedDirectory dir).lba (kernelSlot i) =
        (img.newEntries guestName.chars size slot i).lba ∧
      (loadedDirectory dir).size (kernelSlot i) =
        (img.newEntries guestName.chars size slot i).size ∧
      (i = slot ∧ ¬ img.Shadowed guestName.chars ∨
        i ≠ slot ∧ img.Agrees guestName.chars i ∧ img.Shadowed guestName.chars) := by
  set e := img.newEntries guestName.chars size slot with he
  have hentry := fun i => loadedDirectory_entry (encodeEntry_of_storeEntries hdir i)
    (img.newEntries_name guestName size slot i).1
  set d := loadedDirectory dir
  let found := fun j : Fin 25 => d.flags j == 1 && strCaseEq (d.name j) (guestName.chars.take 11)
  have hfind : tfsFindEntryByName d (guestName.chars.take 11) = Fin.find? found :=
    Fin.find?_eq_find?_finRange.symm
  -- the test of the kernel in terms of the entries that the tool wrote
  have hfound : ∀ i, found (kernelSlot i) = true ↔ (e i).flags = 1 ∧
      strCaseEq ((e i).name.take 11) (guestName.chars.take 11) = true := by
    intro i
    obtain ⟨hname, -, -, hflags⟩ := hentry i
    rw [(img.newEntries_name guestName size slot i).2] at hname
    simp [found, hname, hflags, he]
  have hagrees : ∀ i, i ≠ slot → (found (kernelSlot i) = true ↔ img.Agrees guestName.chars i) := by
    intro i hi
    have hold : e i = img.entries i := update_of_ne hi ..
    rw [hfound, hold, DiskImage.Agrees]
  have hself : found (kernelSlot slot) = true := by
    have hnew : e slot = ⟨guestName.chars, img.startLba, size, 1⟩ := update_self ..
    rw [hfound, hnew]
    simp [strCaseEq]
  obtain ⟨j, hj, hmin⟩ := (Fin.exists_eq_true_iff_exists_minimal_eq_true found).1 ⟨_, hself⟩
  have hle : j ≤ kernelSlot slot := by
    by_contra hlt
    simp [hmin _ (not_le.1 hlt)] at hself
  obtain ⟨i, rfl⟩ : ∃ i : Fin 21, kernelSlot i = j :=
    ⟨⟨j, lt_of_le_of_lt hle slot.isLt⟩, rfl⟩
  refine ⟨i, hfind.trans (Fin.find?_eq_some_iff.2 ⟨hj, hmin⟩), (hentry i).2.1, (hentry i).2.2.1, ?_⟩
  have hshadow : img.Shadowed guestName.chars ↔ ∃ k < slot, img.Agrees guestName.chars k := by
    simp [DiskImage.Shadowed, hslot]
  rcases eq_or_ne i slot with rfl | hi
  · refine Or.inl ⟨rfl, ?_⟩
    rw [hshadow]
    rintro ⟨k, hk, hagree⟩
    have := hmin (kernelSlot k) hk
    simp [(hagrees k hk.ne).2 hagree] at this
  · have hlt : i < slot := lt_of_le_of_ne hle hi
    have hagree := (hagrees i hi).1 hj
    exact Or.inr ⟨hi, hagree, hshadow.2 ⟨i, hlt, hagree⟩⟩

end

/-! ### Agreement -/

/-- Whatever host file of `size` bytes is put on the image under a guest name, the kernel reads it
back. -/
def DiskImage.ReadsBack (img : DiskImage) (guestName : GuestName) (size : Nat) : Prop :=
  ∀ data img', data.length = size → tfsInject img data guestName.chars = some img' →
    tfsReadFile img'.sectors (slash :: guestName.chars) size = .ok data

lemma DiskImage.startLba_ge (img : DiskImage) : 2048 ≤ img.startLba := le_max_left _ _

lemma DiskImage.withFile_of_lt (img : DiskImage) (data : List UInt8) (dir : Sector) {lba : Nat}
    (h : lba < img.startLba) :
    (img.withFile data dir).sectors lba = if lba = tfsDirLba then dir else img.sectors lba := by
  unfold DiskImage.withFile
  dsimp only
  split_ifs with hlba
  · rw [hlba, update_self]
  · rw [update_of_ne hlba, writeChunks_of_not_mem _ _ (Or.inl h)]

lemma DiskImage.withFile_data (img : DiskImage) (data : List UInt8) (dir : Sector) {k : Nat}
    (hk : k < data.length) :
    ((img.withFile data dir).sectors (img.startLba + k / 512)).get (k % 512) = data[k] := by
  have hge := img.startLba_ge
  rw [DiskImage.withFile]
  dsimp only
  rw [update_of_ne (by unfold tfsDirLba; omega), writeChunks_of_lt _ _ _ (by omega),
    get_hostChunk _ hk]

/-- The kernel does not read back a byte that is the same for every host file of the length. -/
lemma DiskImage.ReadsBack.not_constant {img : DiskImage} {guestName : GuestName} {size : Nat}
    {dir : Sector} (hreads : img.ReadsBack guestName size)
    (hinject : ∀ data : List UInt8, data.length = size →
      tfsInject img data guestName.chars = some (img.withFile data dir))
    (k : Nat) (c : UInt8) (hk : k < size) (hbyte : ∀ data bytes : List UInt8,
      tfsReadFile (img.withFile data dir).sectors (slash :: guestName.chars) size = .ok bytes →
      ∀ hk : k < bytes.length, bytes[k] = c) : False := by
  have hlen : (List.replicate size (c + 1)).length = size := List.length_replicate ..
  have h := hbyte _ _ (hreads _ _ hlen (hinject _ hlen)) (by rwa [hlen])
  rw [List.getElem_replicate] at h
  simp at h

/-- The kernel reads back every host file of a length exactly when the guest name is not empty, no
earlier entry has the same name for the kernel, and the sectors of the data have 32-bit numbers. -/
theorem tfsInject_readsBack_iff (img : DiskImage) (guestName : GuestName) (size : Nat)
    (hok : ∃ data, data.length = size ∧ (tfsInject img data guestName.chars).isSome) :
    img.ReadsBack guestName size ↔
      guestName.chars ≠ [] ∧ ¬ img.Shadowed guestName.chars ∧
        img.startLba + (size + 511) / 512 ≤ 4294967296 := by
  obtain ⟨data₀, hsize, hsome⟩ := hok
  obtain ⟨img₀, himg₀⟩ := Option.isSome_iff_exists.1 hsome
  obtain ⟨hne, hdirlt, hend, slot, dir, hslot, hdir, rfl⟩ := tfsInject_eq_some_iff.1 himg₀
  rw [hsize] at hend hdir
  have hpos : 0 < size := by
    rw [← hsize, List.length_pos_iff]
    exact hne
  have hge := img.startLba_ge
  -- every host file of the length goes to the same place, with the same directory
  have hinject : ∀ data : List UInt8, data.length = size →
      tfsInject img data guestName.chars = some (img.withFile data dir) := by
    rintro data rfl
    exact tfsInject_eq_some_iff.2 ⟨List.length_pos_iff.1 hpos, hdirlt, hend, slot, dir, hslot, hdir,
      rfl⟩
  obtain ⟨i, hfind, hlba, hsz, hcases⟩ := tfsFindEntryByName_guestName hslot hdir
  have hread : guestName.chars ≠ [] → ∀ data : List UInt8,
      tfsReadFile (img.withFile data dir).sectors (slash :: guestName.chars) size =
        .ok ((List.range (min size (img.newEntries guestName.chars size slot i).size)).map fun k =>
          ((img.withFile data dir).sectors
            (u32 ((img.newEntries guestName.chars size slot i).lba + k / 512))).get (k % 512)) := by
    intro hname data
    have hsectors : (img.withFile data dir).sectors tfsDirLba = dir := by
      rw [img.withFile_of_lt data dir (by unfold tfsDirLba; omega), if_pos rfl]
    have h := tfsReadFile_eq (img.withFile data dir).sectors (n := size)
      (normalizeTfsName_guestName guestName hname) (hsectors.symm ▸ hfind) hpos.ne'
    rw [h, hsectors, hlba, hsz]
  have hnew : img.newEntries guestName.chars size slot slot =
      ⟨guestName.chars, img.startLba, size, 1⟩ := update_self ..
  constructor
  · intro hreads
    have hname : guestName.chars ≠ [] := by
      intro hnil
      have h := hreads data₀ _ hsize himg₀
      simp [hnil, tfsReadFile, tfsOpen, normalizeTfsName, Tfs.boot] at h
    have hbytes := hread hname
    rcases hcases with ⟨rfl, hshadow⟩ | ⟨hi, hagree, -⟩
    · refine ⟨hname, hshadow, ?_⟩
      by_contra hwrap
      have hstart : img.startLba < 4294967296 := by
        have hencode := encodeEntry_of_storeEntries hdir i
        rw [hnew, encodeEntry] at hencode
        split_ifs at hencode with hlt
        exact hlt.1
      -- the sector after the last one with a 32-bit number is sector 0
      refine hreads.not_constant hinject (512 * (4294967296 - img.startLba)) ((img.sectors 0).get 0)
        (by omega) fun data bytes hok hk => ?_
      rw [hbytes data, hnew, Except.ok.injEq] at hok
      subst hok
      have hquot : img.startLba + 512 * (4294967296 - img.startLba) / 512 = 4294967296 := by omega
      have hrem : 512 * (4294967296 - img.startLba) % 512 = 0 := by omega
      rw [List.getElem_map, List.getElem_range, hquot, hrem,
        show u32 4294967296 = 0 from rfl, img.withFile_of_lt data dir (by omega), if_neg (by decide)]
    · exfalso
      rw [DiskImage.newEntries, update_of_ne hi] at hbytes
      by_cases hzero : (img.entries i).size = 0
      · have h := hreads data₀ _ hsize himg₀
        rw [hbytes data₀, hzero] at h
        simp [hne.symm] at h
      · have hbefore := img.lba_lt_startLba hagree.1 hzero
        refine hreads.not_constant hinject 0 ((if (img.entries i).lba = tfsDirLba then dir else
          img.sectors (img.entries i).lba).get 0) hpos fun data bytes hok hk => ?_
        have hword : (img.entries i).lba < 4294967296 := Bytes.le32_lt ..
        rw [hbytes data, Except.ok.injEq] at hok
        subst hok
        rw [List.getElem_map, List.getElem_range, Nat.zero_div, Nat.add_zero, u32_of_lt hword,
          img.withFile_of_lt data dir hbefore]
  · rintro ⟨hname, hshadow, hwrap⟩ data img' hlen himg'
    obtain rfl : img.withFile data dir = img' :=
      Option.some.inj ((hinject data hlen).symm.trans himg')
    obtain rfl : i = slot := by
      rcases hcases with ⟨rfl, -⟩ | ⟨-, -, h⟩
      · rfl
      · exact absurd h hshadow
    rw [hread hname, hnew]
    dsimp only
    rw [Nat.min_self]
    refine congrArg Except.ok (List.ext_getElem (by simp [hlen]) fun k hk hk' => ?_)
    rw [List.getElem_map, List.getElem_range, u32_of_lt (by omega)]
    exact img.withFile_data data dir hk'

/-- An image of zeros. -/
def blankImage : DiskImage := ⟨fun _ => Bytes.zero, 4096⟩

/-- The guest names `a` and `A`. -/
def guestLowerA : GuestName := ⟨[97], by simp [slash]⟩
def guestUpperA : GuestName := ⟨[65], by simp [slash]⟩

/-- One byte is put into a blank image. -/
theorem tfsInject_readsBack_blank :
    blankImage.ReadsBack guestLowerA 1 ↔
      guestLowerA.chars ≠ [] ∧ ¬ blankImage.Shadowed guestLowerA.chars ∧
        blankImage.startLba + (1 + 511) / 512 ≤ 4294967296 :=
  tfsInject_readsBack_iff blankImage guestLowerA 1 ⟨[7], rfl, by decide⟩

/-- After `A` and `a` have been put on an image one after the other, the kernel reads `A` as `/a`.
-/
theorem tfsInject_otherCase_shadows :
    ((tfsInject blankImage [1] guestUpperA.chars).bind fun img =>
      (tfsInject img [2] guestLowerA.chars).map fun img =>
        tfsReadFile img.sectors (slash :: guestLowerA.chars) 1) = some (.ok [1]) := by
  decide +kernel

end NeuroSpark
