import NeuroSpark.Tfs.Injector

/-!
# What the host tool overwrites

A run of `tools/tfs_inject.py` checks first that it has a slot and that the image has room, and
writes afterwards. Live data is safe: the new file starts behind the end of every active one. Two
things are not kept. The numbers of the new entry are packed when the data is already on the image,
and packing fails for a number of more than 32 bits. And every name is written again filled up with
zeros, while the kernel leaves behind the NUL of a name what was there.
-/

namespace NeuroSpark

variable {img : DiskImage}

/-- `main` with the image that it leaves, also when it fails: the data is written before the
directory is packed. -/
def tfsInjectRun (img : DiskImage) (data : List UInt8) (guestName : CString) : DiskImage × Bool :=
  if data = [] then (img, false)
  else if img.imageSectors ≤ tfsDirLba then (img, false)
  else
    match targetSlot img.entries guestName with
    | none => (img, false)
    | some slot =>
      let sectorsNeeded := (data.length + 511) / 512
      let endLba := img.startLba + sectorsNeeded - 1
      if img.imageSectors ≤ endLba then (img, false)
      else
        let sectors := writeChunks img.sectors img.startLba data sectorsNeeded
        let entries := Function.update img.entries slot ⟨guestName, img.startLba, data.length, 1⟩
        match storeEntries (img.sectors tfsDirLba) entries with
        | none => ({ img with sectors := sectors }, false)
        | some dir => ({ img with sectors := Function.update sectors tfsDirLba dir }, true)

/-- The checks of a run are passed, and it fills this slot. -/
structure DiskImage.Accepts (img : DiskImage) (data : List UInt8) (guestName : CString)
    (slot : Fin 21) : Prop where
  data_ne : data ≠ []
  hasDirectory : tfsDirLba < img.imageSectors
  slot_eq : targetSlot img.entries guestName = some slot
  room : img.startLba + (data.length + 511) / 512 - 1 < img.imageSectors

/-- The image with the data of a host file, and no entry for it. -/
def DiskImage.withPayload (img : DiskImage) (data : List UInt8) : DiskImage where
  sectors := writeChunks img.sectors img.startLba data ((data.length + 511) / 512)
  imageSectors := img.imageSectors

lemma tfsInjectRun_of_not_accepts {data : List UInt8} {guestName : CString}
    (h : ∀ slot, ¬ img.Accepts data guestName slot) :
    tfsInjectRun img data guestName = (img, false) := by
  unfold tfsInjectRun
  split_ifs with hdata hsectors
  · rfl
  · rfl
  · cases hslot : targetSlot img.entries guestName with
    | none => rfl
    | some slot =>
      have hend : img.imageSectors ≤ img.startLba + (data.length + 511) / 512 - 1 := by
        by_contra hroom
        exact h slot ⟨hdata, not_le.1 hsectors, hslot, not_le.1 hroom⟩
      exact if_pos hend

lemma tfsInjectRun_of_accepts {data : List UInt8} {guestName : CString} {slot : Fin 21}
    (h : img.Accepts data guestName slot) :
    tfsInjectRun img data guestName =
      match storeEntries (img.sectors tfsDirLba) (img.newEntries guestName data.length slot) with
      | none => (img.withPayload data, false)
      | some dir => (img.withFile data dir, true) := by
  unfold tfsInjectRun
  rw [if_neg h.data_ne, if_neg (not_le.2 h.hasDirectory), h.slot_eq]
  exact if_neg (not_le.2 h.room)

/-! ### Entries that are written again -/

/-- The characters of the name in a record, up to the NUL. -/
def DiskImage.rawName (img : DiskImage) (i : Fin 21) : CString :=
  cString ((img.sectors tfsDirLba).slice (24 * i) 12)

/-- Every entry of the directory has an ASCII name of at most 11 characters. -/
def DiskImage.ShortNames (img : DiskImage) : Prop :=
  ∀ i, (img.rawName i).length ≤ 11 ∧ ∀ c ∈ img.rawName i, c < 128

/-- Behind its name, the field for the name holds zeros. -/
def DiskImage.Padded (img : DiskImage) (i : Fin 21) : Prop :=
  (img.sectors tfsDirLba).slice (24 * i) 12 =
    img.rawName i ++ List.replicate (12 - (img.rawName i).length) 0

/-- The bytes of an entry. -/
def DiskImage.record (img : DiskImage) (i : Fin 21) : List UInt8 :=
  (img.sectors tfsDirLba).slice (24 * i) 24

/-- The numbers of the new entry have 32 bits. -/
def DiskImage.Fits (img : DiskImage) (data : List UInt8) : Prop :=
  img.startLba < 4294967296 ∧ data.length < 4294967296

/-- An entry that was loaded is packed as its name, filled up with zeros, and the bytes behind. -/
lemma DiskImage.encodeEntry_entries (hshort : img.ShortNames) (i : Fin 21) :
    encodeEntry (img.entries i) =
      some (img.rawName i ++ List.replicate (12 - (img.rawName i).length) 0 ++
        (img.sectors tfsDirLba).slice (24 * i + 12) 12) := by
  obtain ⟨hlen, hascii⟩ := hshort i
  have hfilter : (img.rawName i).filter (· < 128) = img.rawName i :=
    List.filter_eq_self.2 fun c hc => by simpa using hascii c hc
  have hname : (((img.entries i).name.filter (· < 128)).take 11) = img.rawName i := by
    change ((((img.rawName i).filter (· < 128)).filter (· < 128)).take 11) = _
    rw [hfilter, hfilter, List.take_of_length_le hlen]
  have hlba : Le.bytes 4 (img.entries i).lba = (img.sectors tfsDirLba).slice (24 * i + 12) 4 :=
    Bytes.bytes_le32 ..
  have hsize : Le.bytes 4 (img.entries i).size = (img.sectors tfsDirLba).slice (24 * i + 16) 4 :=
    Bytes.bytes_le32 ..
  have hflags : Le.bytes 4 (img.entries i).flags = (img.sectors tfsDirLba).slice (24 * i + 20) 4 :=
    Bytes.bytes_le32 ..
  have hbound : (img.entries i).lba < 4294967296 ∧ (img.entries i).size < 4294967296 ∧
      (img.entries i).flags < 4294967296 :=
    ⟨Bytes.le32_lt .., Bytes.le32_lt .., Bytes.le32_lt ..⟩
  unfold encodeEntry
  rw [if_pos hbound, hname, hlba, hsize, hflags, show 12 = 4 + 4 + 4 from rfl,
    Bytes.slice_add _ _ (4 + 4) 4, Bytes.slice_add _ _ 4 4]
  simp only [List.append_assoc]

lemma DiskImage.encodeEntry_entries_eq_record_iff (hshort : img.ShortNames)
    (i : Fin 21) : encodeEntry (img.entries i) = some (img.record i) ↔ img.Padded i := by
  rw [img.encodeEntry_entries hshort, DiskImage.record, show 24 = 12 + 12 from rfl,
    Bytes.slice_add, Option.some.injEq, List.append_left_inj]
  exact eq_comm

lemma exists_storeEntries {entries : Fin 21 → InjectEntry} (sec : Sector)
    (h : ∀ i, ∃ raw, encodeEntry (entries i) = some raw) :
    ∃ dir, storeEntries sec entries = some dir := by
  unfold storeEntries
  generalize List.finRange 21 = l
  induction l generalizing sec with
  | nil => exact ⟨sec, rfl⟩
  | cons a l ih =>
    obtain ⟨raw, hraw⟩ := h a
    obtain ⟨dir, hdir⟩ := ih (sec.patch (24 * a) raw)
    refine ⟨dir, ?_⟩
    rw [List.foldlM_cons, hraw]
    exact hdir

lemma get_storeEntries {entries : Fin 21 → InjectEntry} {sec dir : Sector}
    (h : storeEntries sec entries = some dir) {k : Nat} (hk : 504 ≤ k) :
    dir.get k = sec.get k := by
  unfold storeEntries at h
  generalize List.finRange 21 = l at h
  induction l generalizing sec with
  | nil =>
    cases h
    rfl
  | cons a l ih =>
    simp only [List.foldlM_cons, Option.bind_eq_bind, Option.bind_eq_some_iff,
      Option.map_eq_some_iff] at h
    obtain ⟨_, ⟨raw, hraw, rfl⟩, hrest⟩ := h
    have hlen := length_of_encodeEntry hraw
    rw [ih hrest]
    exact Bytes.get_patch_of_ge _ _ (by omega)

section

variable {img : DiskImage} {data : List UInt8} {guestName : CString} {slot : Fin 21} {dir : Sector}

lemma DiskImage.newEntries_self :
    img.newEntries guestName data.length slot slot = ⟨guestName, img.startLba, data.length, 1⟩ :=
  Function.update_self ..

lemma DiskImage.newEntries_of_ne {i : Fin 21} (hi : i ≠ slot) :
    img.newEntries guestName data.length slot i = img.entries i :=
  Function.update_of_ne hi ..

lemma exists_storeEntries_newEntries_iff (hshort : img.ShortNames) :
    (∃ dir, storeEntries (img.sectors tfsDirLba) (img.newEntries guestName data.length slot) =
      some dir) ↔ img.Fits data := by
  constructor
  · rintro ⟨dir, hdir⟩
    have hself := encodeEntry_of_storeEntries hdir slot
    rw [DiskImage.newEntries_self, encodeEntry] at hself
    split_ifs at hself with hlt
    exact ⟨hlt.1, hlt.2.1⟩
  · intro hfits
    apply exists_storeEntries
    intro i
    rcases eq_or_ne i slot with rfl | hi
    · rw [DiskImage.newEntries_self, encodeEntry]
      exact ⟨_, if_pos ⟨hfits.1, hfits.2, Nat.one_lt_ofNat⟩⟩
    · rw [DiskImage.newEntries_of_ne hi]
      exact ⟨_, img.encodeEntry_entries hshort i⟩

/-- The entry that is filled was another one before: an active file that is not empty ends before
the sector where the new one starts. -/
lemma DiskImage.record_ne_of_storeEntries (hdata : data ≠ [])
    (hdir : storeEntries (img.sectors tfsDirLba) (img.newEntries guestName data.length slot) =
      some dir) :
    dir.slice (24 * slot) 24 ≠ img.record slot := by
  intro hsame
  have henc := encodeEntry_of_storeEntries hdir slot
  rw [DiskImage.newEntries_self, hsame, DiskImage.record] at henc
  obtain ⟨-, hlba, hsize, hflags⟩ := encodeEntry_eq_slice henc
  have hpos : 0 < data.length := List.length_pos_iff.2 hdata
  have hend := img.end_le_startLba (i := slot) hflags (hsize.trans_ne hpos.ne')
  have hlba' : (img.entries slot).lba = img.startLba := hlba
  have hsize' : (img.entries slot).size = data.length := hsize
  omega

lemma DiskImage.record_eq_iff_padded (hshort : img.ShortNames)
    (hdir : storeEntries (img.sectors tfsDirLba) (img.newEntries guestName data.length slot) =
      some dir) {i : Fin 21} (hi : i ≠ slot) :
    dir.slice (24 * i) 24 = img.record i ↔ img.Padded i := by
  have henc := encodeEntry_of_storeEntries hdir i
  rw [DiskImage.newEntries_of_ne hi] at henc
  rw [← img.encodeEntry_entries_eq_record_iff hshort, henc, Option.some.injEq]

end

/-! ### Live data -/

/-- The sector belongs to the extent of the entry. -/
def InjectEntry.Covers (e : InjectEntry) (lba : Nat) : Prop :=
  e.lba ≤ lba ∧ lba < e.lba + (e.size + 511) / 512

/-- The image `img'` is `img` with the host file at the sectors from `start` on: these lie inside
the image and in no extent of an active entry, one record is another, and nothing else is. -/
structure DiskImage.Injected (img img' : DiskImage) (data : List UInt8) (start : Nat) : Prop where
  imageSectors : img'.imageSectors = img.imageSectors
  above : 2048 ≤ start
  inside : start + (data.length + 511) / 512 ≤ img.imageSectors
  disjoint : ∀ i, (img.entries i).flags = 1 → ∀ k < (data.length + 511) / 512,
    ¬ (img.entries i).Covers (start + k)
  payload : ∀ k < (data.length + 511) / 512, img'.sectors (start + k) = hostChunk data k
  others : ∀ lba ≠ tfsDirLba, (lba < start ∨ start + (data.length + 511) / 512 ≤ lba) →
    img'.sectors lba = img.sectors lba
  oneRecord : ∃! i, img'.record i ≠ img.record i
  rest : ∀ k, 504 ≤ k → (img'.sectors tfsDirLba).get k = (img.sectors tfsDirLba).get k

/-- A run leaves the image as it is, or it puts the host file beside all live data. -/
def DiskImage.InjectsSafely (img : DiskImage) (data : List UInt8) (guestName : CString) : Prop :=
  tfsInjectRun img data guestName = (img, false) ∨
    ∃ start, img.Injected (tfsInjectRun img data guestName).1 data start

/-- The image has the data already where the tool puts it. -/
def DiskImage.Holds (img : DiskImage) (data : List UInt8) : Prop :=
  ∀ k < (data.length + 511) / 512, img.sectors (img.startLba + k) = hostChunk data k

section

variable {img : DiskImage} {data : List UInt8} {guestName : CString} {slot : Fin 21} {dir : Sector}

lemma DiskImage.withPayload_dir : (img.withPayload data).sectors tfsDirLba =
    img.sectors tfsDirLba := by
  have hge := img.startLba_ge
  apply writeChunks_of_not_mem
  unfold tfsDirLba
  omega

lemma DiskImage.withFile_sectors : (img.withFile data dir).sectors =
    Function.update (img.withPayload data).sectors tfsDirLba dir := rfl

lemma DiskImage.withFile_dir : (img.withFile data dir).sectors tfsDirLba = dir := by
  rw [DiskImage.withFile_sectors, Function.update_self]

lemma DiskImage.withFile_of_ne {lba : Nat} (hlba : lba ≠ tfsDirLba) :
    (img.withFile data dir).sectors lba = (img.withPayload data).sectors lba := by
  rw [DiskImage.withFile_sectors, Function.update_of_ne hlba]

lemma DiskImage.withPayload_eq_self_iff : img.withPayload data = img ↔ img.Holds data := by
  constructor
  · intro h k hk
    have hchunk := writeChunks_of_lt img.sectors img.startLba data hk
    exact (congrFun (congrArg DiskImage.sectors h) _).symm.trans hchunk
  · intro h
    have hsectors : (img.withPayload data).sectors = img.sectors := by
      funext lba
      by_cases hout : lba < img.startLba ∨ img.startLba + (data.length + 511) / 512 ≤ lba
      · exact writeChunks_of_not_mem _ _ hout
      · obtain ⟨hge, hlt⟩ := not_or.1 hout
        obtain ⟨k, rfl⟩ := Nat.exists_eq_add_of_le (not_lt.1 hge)
        have hk : k < (data.length + 511) / 512 := by omega
        rw [h k hk]
        exact writeChunks_of_lt _ _ _ hk
    exact congrArg (DiskImage.mk · _) hsectors

/-- The file of a run that succeeds lies behind everything that is live. -/
lemma DiskImage.injected_withFile (h : img.Accepts data guestName slot)
    (hdir : storeEntries (img.sectors tfsDirLba) (img.newEntries guestName data.length slot) =
      some dir) (hrecords : ∀ i ≠ slot, dir.slice (24 * i) 24 = img.record i) :
    img.Injected (img.withFile data dir) data img.startLba where
  imageSectors := rfl
  above := img.startLba_ge
  inside := by
    have hroom := h.room
    omega
  disjoint := by
    rintro i hflags k - ⟨hge, hlt⟩
    by_cases hsize : (img.entries i).size = 0
    · omega
    · have hend := img.end_le_startLba hflags hsize
      omega
  payload := by
    intro k hk
    have hge := img.startLba_ge
    rw [DiskImage.withFile_of_ne (by unfold tfsDirLba; omega)]
    exact writeChunks_of_lt _ _ _ hk
  others := by
    intro lba hlba hout
    rw [DiskImage.withFile_of_ne hlba]
    exact writeChunks_of_not_mem _ _ hout
  oneRecord := by
    have hrecord : ∀ i, (img.withFile data dir).record i = dir.slice (24 * i) 24 := by
      intro i
      rw [DiskImage.record, DiskImage.withFile_dir]
    refine ⟨slot, ?_, fun i hi => ?_⟩
    · exact DiskImage.record_ne_of_storeEntries h.data_ne hdir
    · by_contra hne
      exact hi ((hrecord i).trans (hrecords i hne))
  rest := by
    intro k hk
    exact get_storeEntries hdir hk

lemma DiskImage.injectsSafely_iff_holds (hshort : img.ShortNames)
    (h : img.Accepts data guestName slot) (hfits : ¬ img.Fits data) :
    img.InjectsSafely data guestName ↔ img.Holds data := by
  have hrun : tfsInjectRun img data guestName = (img.withPayload data, false) := by
    rw [tfsInjectRun_of_accepts h]
    cases hdir : storeEntries (img.sectors tfsDirLba)
        (img.newEntries guestName data.length slot) with
    | none => rfl
    | some dir => exact absurd ((exists_storeEntries_newEntries_iff hshort).1 ⟨dir, hdir⟩) hfits
  rw [DiskImage.InjectsSafely, hrun, ← DiskImage.withPayload_eq_self_iff]
  constructor
  · rintro (hsame | ⟨start, hinjected⟩)
    · exact congrArg Prod.fst hsame
    · obtain ⟨i, hi, -⟩ := hinjected.oneRecord
      refine absurd ?_ hi
      rw [DiskImage.record, DiskImage.record, DiskImage.withPayload_dir]
  · intro hsame
    rw [hsame]
    exact Or.inl rfl

lemma DiskImage.injectsSafely_iff_padded (hshort : img.ShortNames)
    (h : img.Accepts data guestName slot) (hfits : img.Fits data) :
    img.InjectsSafely data guestName ↔ ∀ i ≠ slot, img.Padded i := by
  obtain ⟨dir, hdir⟩ : ∃ dir, storeEntries (img.sectors tfsDirLba)
      (img.newEntries guestName data.length slot) = some dir :=
    (exists_storeEntries_newEntries_iff hshort).2 hfits
  have hrun : tfsInjectRun img data guestName = (img.withFile data dir, true) := by
    rw [tfsInjectRun_of_accepts h, hdir]
  rw [DiskImage.InjectsSafely, hrun]
  constructor
  · rintro (hsame | ⟨start, hinjected⟩) i hi
    · simp at hsame
    · rw [← DiskImage.record_eq_iff_padded hshort hdir hi]
      have hrecord : ∀ j, (img.withFile data dir).record j = dir.slice (24 * j) 24 := by
        intro j
        rw [DiskImage.record, DiskImage.withFile_dir]
      obtain ⟨j, -, hunique⟩ := hinjected.oneRecord
      have hslot : slot = j := by
        apply hunique
        exact DiskImage.record_ne_of_storeEntries h.data_ne hdir
      by_contra hne
      refine hi ((hunique i ?_).trans hslot.symm)
      dsimp only
      rwa [hrecord]
  · intro hpadded
    refine Or.inr ⟨img.startLba, DiskImage.injected_withFile h hdir fun i hi => ?_⟩
    exact (DiskImage.record_eq_iff_padded hshort hdir hi).2 (hpadded i hi)

end

/-- On an image with short names a run is safe exactly when it stops at its checks, or the numbers
of the new entry have 32 bits and every other record is filled up with zeros; without that, only
when the image had the data before. -/
theorem tfsInject_safely_iff (img : DiskImage) (data : List UInt8) (guestName : CString)
    (hshort : img.ShortNames) :
    img.InjectsSafely data guestName ↔ ∀ slot, img.Accepts data guestName slot →
      (img.Fits data → ∀ i ≠ slot, img.Padded i) ∧ (¬ img.Fits data → img.Holds data) := by
  constructor
  · intro hsafe slot h
    constructor
    · intro hfits
      exact (DiskImage.injectsSafely_iff_padded hshort h hfits).1 hsafe
    · intro hfits
      exact (DiskImage.injectsSafely_iff_holds hshort h hfits).1 hsafe
  · intro hcond
    by_cases h : ∃ slot, img.Accepts data guestName slot
    · obtain ⟨slot, h⟩ := h
      by_cases hfits : img.Fits data
      · exact (DiskImage.injectsSafely_iff_padded hshort h hfits).2 ((hcond slot h).1 hfits)
      · exact (DiskImage.injectsSafely_iff_holds hshort h hfits).2 ((hcond slot h).2 hfits)
    · exact Or.inl (tfsInjectRun_of_not_accepts (not_exists.1 h))

lemma blankImage_shortNames : blankImage.ShortNames := by
  unfold DiskImage.ShortNames
  decide +kernel

/-- One byte is put into a blank image. -/
theorem tfsInject_safely_blank : blankImage.InjectsSafely [7] guestLowerA.chars := by
  have hpadded : ∀ i, blankImage.Padded i := by
    unfold DiskImage.Padded
    decide +kernel
  have hfits : blankImage.Fits [7] := by
    unfold DiskImage.Fits
    decide +kernel
  refine (tfsInject_safely_iff blankImage [7] guestLowerA.chars blankImage_shortNames).2 ?_
  exact fun slot _ => ⟨fun _ i _ => hpadded i, fun h => absurd hfits h⟩

/-- An image of 8 GiB. -/
def largeImage : DiskImage := ⟨fun _ => Bytes.zero, 16777216⟩

def largeFile : List UInt8 := List.replicate 4294967296 1

/-- An image with the one file `brain0`, its entry written over that of `session.bin`. -/
def snapshotImage : DiskImage where
  sectors lba :=
    if lba = tfsDirLba then
      ((Bytes.zero : Sector).patch 0 [98, 114, 97, 105, 110, 48, 0, 46, 98, 105, 110]).setLe32 20 1
    else Bytes.zero
  imageSectors := 4096

lemma length_largeFile : largeFile.length = 4294967296 := List.length_replicate ..

lemma largeImage_accepts : largeImage.Accepts largeFile guestLowerA.chars 0 where
  data_ne := by
    apply List.ne_nil_of_length_pos
    rw [length_largeFile]
    decide
  hasDirectory := by decide
  slot_eq := by decide +kernel
  room := by
    have hstart : largeImage.startLba = 2048 := by decide +kernel
    rw [hstart, length_largeFile]
    decide

lemma largeImage_not_holds : ¬ largeImage.Holds largeFile := by
  intro h
  have hpos : 0 < largeFile.length := by
    rw [length_largeFile]
    decide
  have hchunk := h 0 (by rw [length_largeFile]; decide)
  have hget := get_hostChunk largeFile hpos
  rw [Nat.zero_div, ← hchunk] at hget
  have hone : largeFile[0] = 1 := List.getElem_replicate ..
  rw [hone] at hget
  simp [largeImage] at hget

/-- A host file of 4 GiB is written over the sectors behind the last file, and the run fails
afterwards; and a small one changes the bytes behind the name of another file. -/
theorem tfsInject_not_safely :
    (largeImage.ShortNames ∧ ¬ largeImage.InjectsSafely largeFile guestLowerA.chars) ∧
      snapshotImage.ShortNames ∧ ¬ snapshotImage.InjectsSafely [7] guestLowerA.chars := by
  have hlarge : largeImage.ShortNames := blankImage_shortNames
  have hsnapshot : snapshotImage.ShortNames := by
    unfold DiskImage.ShortNames
    decide +kernel
  refine ⟨⟨hlarge, ?_⟩, hsnapshot, ?_⟩
  · have hfits : ¬ largeImage.Fits largeFile := by
      intro h
      exact absurd h.2 (by rw [length_largeFile]; exact lt_irrefl _)
    rw [DiskImage.injectsSafely_iff_holds hlarge largeImage_accepts hfits]
    exact largeImage_not_holds
  · have haccepts : snapshotImage.Accepts [7] guestLowerA.chars 1 :=
      ⟨by decide, by decide, by decide +kernel, by decide +kernel⟩
    have hfits : snapshotImage.Fits [7] := by
      unfold DiskImage.Fits
      decide +kernel
    rw [DiskImage.injectsSafely_iff_padded hsnapshot haccepts hfits]
    intro h
    have hpadded := h 0 (by decide)
    unfold DiskImage.Padded at hpadded
    revert hpadded
    decide +kernel

end NeuroSpark
