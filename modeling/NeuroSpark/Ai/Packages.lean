import NeuroSpark.Ai.ModelTable

/-!
# Importing packages and verifying models

A package is imported under its own name or under an alias, and its checksum is computed over the
name that is taken. The verifier computes the checksum again, but from the size of the package where
the importer takes that of the payload. A file with the magic of a package whose header is not
consistent is imported like any other file.
-/

namespace NeuroSpark.Ai

variable {s : AiRuntime} {path : CString} {file : PackageFile} {aliasName : CString}
  {p : PackageContents} {packageBytes : UInt32}

lemma import_eq_some_iff : (aiRuntimeImportModelPackage s path file aliasName).2 = some p ↔
    readPackage path file aliasName = some p ∧ (p.args path).Valid ∧
      (s.storeIndex p.name.chars).isSome := by
  unfold aiRuntimeImportModelPackage
  cases hread : readPackage path file aliasName with
  | none => simp
  | some q =>
    cases hstore : storeModel s (q.args path) with
    | none =>
      simp only [hstore, reduceCtorEq, Option.some.injEq, false_iff]
      rintro ⟨rfl, hvalid, hroom⟩
      obtain ⟨i, hi⟩ := Option.isSome_iff_exists.1 hroom
      rw [storeModel_eq_some_iff.2 ⟨hvalid, i, hi, rfl⟩] at hstore
      cases hstore
    | some s' =>
      simp only [hstore, Option.some.injEq]
      refine ⟨?_, And.left⟩
      rintro rfl
      obtain ⟨hvalid, i, hi, -⟩ := storeModel_eq_some_iff.1 hstore
      exact ⟨rfl, hvalid, Option.isSome_iff_exists.2 ⟨i, hi⟩⟩

lemma models_of_import_none (h : (aiRuntimeImportModelPackage s path file aliasName).2 = none) :
    (aiRuntimeImportModelPackage s path file aliasName).1.models = s.models := by
  unfold aiRuntimeImportModelPackage at h ⊢
  cases hread : readPackage path file aliasName with
  | none => rfl
  | some q =>
    cases hstore : storeModel s (q.args path) with
    | none => simp only [hstore, AiRuntime.failLoad]
    | some s' =>
      simp only [hread, hstore] at h
      cases h

lemma state_of_import (h : (aiRuntimeImportModelPackage s path file aliasName).2 = some p) :
    ∃ i, s.storeIndex p.name.chars = some i ∧
      (aiRuntimeImportModelPackage s path file aliasName).1 = s.storeAt (p.args path) i := by
  obtain ⟨hread, hvalid, hroom⟩ := import_eq_some_iff.1 h
  obtain ⟨i, hi⟩ := Option.isSome_iff_exists.1 hroom
  refine ⟨i, hi, ?_⟩
  simp only [aiRuntimeImportModelPackage, hread, storeModel_eq_some_iff.2 ⟨hvalid, i, hi, rfl⟩]

/-- What the verifier hashes. -/
def StoreArgs.verifiedFields (a : StoreArgs) : PackageFields :=
  ⟨a.name, a.kind, a.version, a.preferredBackend, a.seed, a.provenance, storedBias a.bias,
    a.packageBytes, a.artifactHash, a.schemaVersion, a.packageBytes⟩

lemma verify_storeAt {a : StoreArgs} {i : Fin 8} (hname : a.entry.name.chars = a.name)
    (hindex : s.storeIndex a.name = some i) :
    (aiRuntimeVerifyModel (s.storeAt a i) a.name).2 =
      if modelPackageHash a.verifiedFields = a.checksum then some a.checksum else none := by
  have hentry : (s.storeAt a i).models i = a.entry := Function.update_self ..
  have hhash : a.entry.verifierHash = modelPackageHash a.verifiedFields := by
    unfold AiModelInfo.verifierHash
    rw [hname]
    rfl
  have hsum : a.entry.checksum = a.checksum := rfl
  simp only [aiRuntimeVerifyModel, AiRuntime.find_storeAt hname hindex, hentry, hhash, hsum]
  by_cases heq : modelPackageHash a.verifiedFields = a.checksum
  · simp [heq]
  · simp [heq]

/-! ### Packages -/

lemma openPackage_eq_some_iff {hdr : AiModelPackageHeaderV1} :
    openPackage path file = some (packageBytes, hdr) ↔ path ≠ [] ∧ file.stat = some packageBytes ∧
      (sizeofHeader ≤ packageBytes.toNat ∧ packageBytes.toNat ≤ aiModelPackageMaxBytes) ∧
      (file.opens = true ∧ sizeofHeader ≤ file.bytes.length) ∧ hdr = .ofBytes file.bytes := by
  by_cases hpath : path = []
  · simp [openPackage, hpath]
  · rw [openPackage, if_neg hpath]
    cases hstat : file.stat with
    | none => simp
    | some size =>
      simp only [Option.some.injEq]
      constructor
      · intro h
        split_ifs at h with hsize hopens
        cases h
        exact ⟨hpath, rfl, by omega, ⟨by tauto, by omega⟩, rfl⟩
      · rintro ⟨-, rfl, hsize, ⟨hopens, hbytes⟩, rfl⟩
        rw [if_neg (by omega), if_neg (by simp [hopens, hbytes])]

lemma AiModelPackageHeaderV1.FieldsConsistent.payload_ne {hdr : AiModelPackageHeaderV1}
    (h : hdr.FieldsConsistent packageBytes)
    (hsize : sizeofHeader ≤ packageBytes.toNat) : packageBytes ≠ hdr.payloadBytes := by
  obtain ⟨-, hheader, -, -, -, hpayload⟩ := h
  intro heq
  rw [← heq, UInt32.le_iff_toNat_le, UInt32.toNat_sub_of_le _ _ (by
    rw [UInt32.le_iff_toNat_le, hheader]; exact hsize), hheader] at hpayload
  simp only [sizeofHeader] at hsize hpayload
  omega

/-- The file is taken as a package with a header. -/
def IsStructured (path : CString) (file : PackageFile) : Prop :=
  ∃ x ∈ openPackage path file, x.2.Consistent x.1

instance (path : CString) (file : PackageFile) : Decidable (IsStructured path file) :=
  inferInstanceAs (Decidable (∃ x ∈ openPackage path file, x.2.Consistent x.1))

/-- The bias is not stored, and the hash with the size of the package for that of the payload and 0
for the bias is by chance the same. -/
def HashesCollide (p : PackageContents) : Prop :=
  (p.bias < -100000 ∨ 100000 < p.bias) ∧
    modelPackageHash { p.fields with bias := 0, payloadBytes := p.packageBytes } = p.hash

/-- Only the size of the payload is verified otherwise than hashed, and the bias if it is not
stored. -/
lemma verifiedFields_hash_iff (hread : readPackage path file aliasName = some p) :
    modelPackageHash (p.args path).verifiedFields = p.hash ↔
      ¬ IsStructured path file ∨ HashesCollide p := by
  obtain ⟨⟨packageBytes, hdr⟩, hopen, hp⟩ := Option.bind_eq_some_iff.1 hread
  have hstructured : IsStructured path file ↔ hdr.Consistent packageBytes := by
    constructor
    · rintro ⟨x, hopen', hconsistent⟩
      obtain rfl := Option.some.inj (hopen.symm.trans hopen')
      exact hconsistent
    · exact fun hconsistent => ⟨(packageBytes, hdr), hopen, hconsistent⟩
  simp only at hp
  split_ifs at hp with hconsistent
  · obtain ⟨payloadHash, -, hcontents, -⟩ := structuredPackage_eq_some_iff.1 hp
    have hpayload : p.packageBytes ≠ p.payloadBytes := by
      rw [hcontents]
      exact hconsistent.2.payload_ne (openPackage_eq_some_iff.1 hopen).2.2.1.1
    rw [hstructured, or_iff_right (not_not.2 hconsistent), HashesCollide]
    by_cases hbias : p.bias < -100000 ∨ 100000 < p.bias
    · have hfields : (p.args path).verifiedFields =
          { p.fields with bias := 0, payloadBytes := p.packageBytes } := by
        have hzero : storedBias p.bias = 0 := if_pos hbias
        exact congrArg (fun b => { p.fields with bias := b, payloadBytes := p.packageBytes }) hzero
      rw [hfields, and_iff_right hbias]
    · have hfields : (p.args path).verifiedFields =
          { p.fields with payloadBytes := p.packageBytes } := by
        have hsame : storedBias p.bias = p.bias := if_neg hbias
        exact congrArg (fun b => { p.fields with bias := b, payloadBytes := p.packageBytes }) hsame
      rw [hfields]
      exact iff_of_false (modelPackageHash_ne_of_changed (.payloadBytes hpayload))
        fun h => hbias h.1
  · obtain ⟨payloadHash, -, rfl, -⟩ := rawPackage_eq_some_iff.1 hp
    exact iff_of_true rfl (Or.inl (hstructured.not.2 hconsistent))

lemma verify_import_iff (h : (aiRuntimeImportModelPackage s path file aliasName).2 = some p) :
    (aiRuntimeVerifyModel (aiRuntimeImportModelPackage s path file aliasName).1 p.name.chars).2 =
      some p.hash ↔ ¬ IsStructured path file ∨ HashesCollide p := by
  obtain ⟨i, hindex, hstate⟩ := state_of_import h
  have hname : (p.args path).entry.name.chars = (p.args path).name :=
    ModelName.copy_chars p.name.terminated (Nat.le_of_lt_succ p.name.fits)
  have hverify := verify_storeAt hname hindex
  rw [hstate, ← verifiedFields_hash_iff (import_eq_some_iff.1 h).1]
  change (aiRuntimeVerifyModel (s.storeAt (p.args path) i) (p.args path).name).2 = some p.hash ↔ _
  rw [hverify]
  change (if _ = p.hash then some p.hash else none) = some p.hash ↔ _
  split_ifs with hhash
  · simp [hhash]
  · simp [hhash]

lemma verify_load_iff {name : CString} {kind version preferredBackend seed provenance : UInt32}
    (h : (aiRuntimeLoadModel s name kind version preferredBackend seed provenance).2 = true) :
    (aiRuntimeVerifyModel (aiRuntimeLoadModel s name kind version preferredBackend seed
      provenance).1 name).2.isSome ↔ name.length ≤ 15 := by
  rcases modelStep_cases s (.load name kind version preferredBackend seed provenance) with
    ⟨a, ha, n, hn, hvalid, i, hindex, hstep⟩ | hstep
  · cases ha
    change aiRuntimeLoadModel s name kind version preferredBackend seed provenance = _ at hstep
    rw [hstep]
    constructor
    · intro hverify
      cases hfind : (s.storeAt (memoryArgs name kind version preferredBackend seed provenance)
          i).findModelIndex name with
      | none => simp [aiRuntimeVerifyModel, hfind] at hverify
      | some j => exact AiRuntime.length_of_find hfind
    · intro hfits
      have hname := ModelName.copy_chars hvalid.1.not_mem_zero hfits
      have hhash : modelPackageHash (memoryArgs name kind version preferredBackend seed
          provenance).verifiedFields =
          (memoryArgs name kind version preferredBackend seed provenance).checksum := rfl
      have hverify := verify_storeAt hname hindex
      rw [if_pos hhash] at hverify
      exact Option.isSome_iff_exists.2 ⟨_, hverify⟩
  · change aiRuntimeLoadModel s name kind version preferredBackend seed provenance = _ at hstep
    rw [hstep] at h
    cases h

/-- A model that is imported verifies, with the checksum that the import reports, exactly when its
file is not taken as a package with a header (but for a collision of hashes); a model from memory
verifies exactly when its name has at most 15 characters. -/
theorem stored_verifies_iff (s : AiRuntime) :
    (∀ path file aliasName p, (aiRuntimeImportModelPackage s path file aliasName).2 = some p →
      ((aiRuntimeVerifyModel (aiRuntimeImportModelPackage s path file aliasName).1
        p.name.chars).2 = some p.hash ↔ ¬ IsStructured path file ∨ HashesCollide p)) ∧
    ∀ name kind version preferredBackend seed provenance,
      (aiRuntimeLoadModel s name kind version preferredBackend seed provenance).2 = true →
      ((aiRuntimeVerifyModel (aiRuntimeLoadModel s name kind version preferredBackend seed
        provenance).1 name).2.isSome ↔ name.length ≤ 15) :=
  ⟨fun _ _ _ _ h => verify_import_iff h, fun _ _ _ _ _ _ h => verify_load_iff h⟩

/-- The table at the start, over entries that are all zero. -/
def newRuntime : AiRuntime :=
  aiRuntimeInit fun _ => ⟨false, 0, 0, 0, 0, 0, 0, 0, 0, 0, 0, [], .copy []⟩

/-- A file of 96 bytes with the magic and the header of a package `m` with no payload, under a
schema and with the bytes of a checksum. -/
def headerFile (schemaVersion : UInt8) (checksum : List UInt8) : PackageFile where
  stat := some 96
  opens := true
  bytes := asciiText "AIM1" ++ [schemaVersion, 0, 0, 0, 96, 0, 0, 0, 96, 0, 0, 0, 1, 0, 0, 0] ++
    List.replicate 24 0 ++ checksum ++ asciiText "m" ++ List.replicate 47 0

def noChecksum : List UInt8 := [0, 0, 0, 0]

/-- A file at `/m` is imported under its own name. -/
def importM (file : PackageFile) : AiRuntime × Option PackageContents :=
  aiRuntimeImportModelPackage newRuntime (asciiText "/m") file []

/-- What is stored of the file with the schema 2, which is not taken as a package. -/
def rawHeaderFile : PackageContents :=
  rawContents 96 (hashUpdate hashInit (headerFile 2 noChecksum).bytes) (.copy (asciiText "m"))

/-- It verifies. -/
theorem stored_verifies_raw :
    (aiRuntimeVerifyModel (importM (headerFile 2 noChecksum)).1 (asciiText "m")).2 =
      some rawHeaderFile.hash :=
  ((stored_verifies_iff newRuntime).1 _ _ _ rawHeaderFile (by decide +kernel)).2
    (Or.inl (by decide +kernel))

/-- A package with a header is imported and does not verify. -/
theorem package_notVerified : ¬ ∀ s path file aliasName p,
    (aiRuntimeImportModelPackage s path file aliasName).2 = some p →
      (aiRuntimeVerifyModel (aiRuntimeImportModelPackage s path file aliasName).1
        p.name.chars).2 = some p.hash := by
  intro h
  have hnone : ∀ p ∈ (importM (headerFile 1 noChecksum)).2,
      (aiRuntimeVerifyModel (importM (headerFile 1 noChecksum)).1 p.name.chars).2 = none := by
    decide +kernel
  have hsome : (importM (headerFile 1 noChecksum)).2.isSome := by decide +kernel
  obtain ⟨p, hp⟩ := Option.isSome_iff_exists.1 hsome
  have hverify := h _ _ _ _ p hp
  exact Option.some_ne_none _ (hverify.symm.trans (hnone p hp))

/-! ### Damaged and renamed packages -/

def PackageFile.header (file : PackageFile) : AiModelPackageHeaderV1 := .ofBytes file.bytes

/-- A file at a path that begins with the magic of a package. -/
structure PackageFile.IsPackage (file : PackageFile) (path : CString) (packageBytes : UInt32) :
    Prop where
  path : path ≠ []
  stat : file.stat = some packageBytes
  opens : file.opens = true
  header : sizeofHeader ≤ file.bytes.length
  magic : file.header.magic = aiModelPackageMagic

def PackageFile.ownName (file : PackageFile) : ModelName := .copy file.header.modelName

/-- The checksum in the header is that of the contents under a name. -/
def SumMatches (file : PackageFile) (packageBytes : UInt32) (name : ModelName) : Prop :=
  (hashStreamRange file file.header.headerSize.toNat file.header.payloadBytes.toNat).map
    (fun payloadHash => (file.header.contents packageBytes payloadHash name).hash) =
      some file.header.checksum

instance (file : PackageFile) (packageBytes : UInt32) (name : ModelName) :
    Decidable (SumMatches file packageBytes name) := inferInstanceAs (Decidable (_ = _))

/-- The alias, or the package's own name if there is none, is a valid name. -/
def ValidAlias (file : PackageFile) (aliasName : CString) : Prop :=
  NameValid (if cString aliasName = [] then file.ownName.chars else cString aliasName)

instance (file : PackageFile) (aliasName : CString) : Decidable (ValidAlias file aliasName) :=
  inferInstanceAs (Decidable (NameValid _))

/-- A damaged package is refused, and a package that matches its checksum under its own name is
imported under every valid alias. -/
structure TreatsConsistently (s : AiRuntime) (path : CString) (file : PackageFile)
    (aliasName : CString) (packageBytes : UInt32) : Prop where
  damaged : ¬ file.header.FieldsConsistent packageBytes ∨
      (file.header.checksum ≠ 0 ∧ ¬ SumMatches file packageBytes file.ownName) →
    (aiRuntimeImportModelPackage s path file aliasName).2 = none ∧
      (aiRuntimeImportModelPackage s path file aliasName).1.models = s.models
  renamed : file.header.FieldsConsistent packageBytes → SumMatches file packageBytes file.ownName →
    ValidAlias file aliasName → (aiRuntimeImportModelPackage s path file aliasName).2.isSome

/-- The size of the file is in the limits, and the table has an entry for the name. -/
def HasRoom (s : AiRuntime) (packageBytes : UInt32) (name : ModelName) : Prop :=
  (sizeofHeader ≤ packageBytes.toNat ∧ packageBytes.toNat ≤ aiModelPackageMaxBytes) ∧
    (s.storeIndex name.chars).isSome

instance (s : AiRuntime) (packageBytes : UInt32) (name : ModelName) :
    Decidable (HasRoom s packageBytes name) := inferInstanceAs (Decidable (_ ∧ _))

/-- A file without a consistent header can be imported as it is. -/
def ImportsRaw (s : AiRuntime) (path : CString) (file : PackageFile) (aliasName : CString)
    (packageBytes : UInt32) : Prop :=
  (hashStreamRange file 0 packageBytes.toNat).isSome ∧
    NameValid (packageName (deriveNameFromPath path) aliasName).chars ∧
    HasRoom s packageBytes (packageName (deriveNameFromPath path) aliasName)

instance (s : AiRuntime) (path : CString) (file : PackageFile) (aliasName : CString)
    (packageBytes : UInt32) : Decidable (ImportsRaw s path file aliasName packageBytes) :=
  inferInstanceAs (Decidable (_ ∧ _))

/-- A package with a consistent header can be imported under the name that is taken. -/
def ImportsPackage (s : AiRuntime) (file : PackageFile) (aliasName : CString)
    (packageBytes : UInt32) : Prop :=
  (hashStreamRange file file.header.headerSize.toNat file.header.payloadBytes.toNat).isSome ∧
    NameValid (packageName file.ownName aliasName).chars ∧
    (file.header.checksum = 0 ∨ SumMatches file packageBytes (packageName file.ownName aliasName)) ∧
    HasRoom s packageBytes (packageName file.ownName aliasName)

lemma readPackage_of_isPackage (h : file.IsPackage path packageBytes)
    (hsize : sizeofHeader ≤ packageBytes.toNat ∧ packageBytes.toNat ≤ aiModelPackageMaxBytes) :
    readPackage path file aliasName =
      if file.header.FieldsConsistent packageBytes
      then structuredPackage file file.header packageBytes aliasName
      else rawPackage path file packageBytes aliasName := by
  have hopen := openPackage_eq_some_iff.2 ⟨h.path, h.stat, hsize, ⟨h.opens, h.header⟩, rfl⟩
  have hconsistent : file.header.Consistent packageBytes ↔
      file.header.FieldsConsistent packageBytes := and_iff_right h.magic
  rw [readPackage, hopen, Option.bind_some]
  exact if_congr hconsistent rfl rfl

lemma limits_of_readPackage (h : file.IsPackage path packageBytes)
    (hread : readPackage path file aliasName = some p) :
    sizeofHeader ≤ packageBytes.toNat ∧ packageBytes.toNat ≤ aiModelPackageMaxBytes := by
  obtain ⟨⟨size, hdr⟩, hopen, -⟩ := Option.bind_eq_some_iff.1 hread
  obtain ⟨-, hstat, hsize, -⟩ := openPackage_eq_some_iff.1 hopen
  obtain rfl := Option.some.inj (h.stat.symm.trans hstat)
  exact hsize

variable (s aliasName) in
lemma import_isSome_iff {packageBytes : UInt32} (h : file.IsPackage path packageBytes) :
    (aiRuntimeImportModelPackage s path file aliasName).2.isSome ↔
      if file.header.FieldsConsistent packageBytes
      then ImportsPackage s file aliasName packageBytes
      else ImportsRaw s path file aliasName packageBytes := by
  rw [Option.isSome_iff_exists]
  constructor
  · rintro ⟨p, hp⟩
    obtain ⟨hread, -, hroom⟩ := import_eq_some_iff.1 hp
    have hsize := limits_of_readPackage h hread
    rw [readPackage_of_isPackage h hsize] at hread
    split_ifs at hread ⊢ with hconsistent
    · obtain ⟨payloadHash, hhash, rfl, hname, hsum⟩ := structuredPackage_eq_some_iff.1 hread
      refine ⟨by rw [hhash]; rfl, hname, hsum.imp_right fun hsum => ?_, hsize, hroom⟩
      rw [SumMatches, hhash, Option.map_some, hsum]
      rfl
    · obtain ⟨payloadHash, hhash, rfl, hname⟩ := rawPackage_eq_some_iff.1 hread
      exact ⟨by rw [hhash]; rfl, hname, hsize, hroom⟩
  · intro himports
    split_ifs at himports with hconsistent
    · obtain ⟨hhash, hname, hsum, hsize, hroom⟩ := himports
      obtain ⟨payloadHash, hhash⟩ := Option.isSome_iff_exists.1 hhash
      refine ⟨file.header.contents packageBytes payloadHash (packageName file.ownName aliasName),
        import_eq_some_iff.2 ⟨?_, ?_, hroom⟩⟩
      · rw [readPackage_of_isPackage h hsize, if_pos hconsistent]
        refine structuredPackage_eq_some_iff.2 ⟨payloadHash, hhash, rfl, hname, ?_⟩
        refine hsum.imp_right fun hsum => ?_
        rw [SumMatches, hhash, Option.map_some] at hsum
        exact (Option.some.inj hsum).symm
      · exact ⟨hname, hconsistent.2.2.2.1, hconsistent.2.2.2.2.1⟩
    · obtain ⟨hhash, hname, hsize, hroom⟩ := himports
      obtain ⟨payloadHash, hhash⟩ := Option.isSome_iff_exists.1 hhash
      refine ⟨rawContents packageBytes payloadHash
        (packageName (deriveNameFromPath path) aliasName), import_eq_some_iff.2 ⟨?_, ?_, hroom⟩⟩
      · rw [readPackage_of_isPackage h hsize, if_neg hconsistent]
        exact rawPackage_eq_some_iff.2 ⟨payloadHash, hhash, rfl, hname⟩
      · exact ⟨hname, Or.inl rfl, Or.inl rfl⟩

lemma validAlias_packageName (h : ValidAlias file aliasName) :
    NameValid (packageName file.ownName aliasName).chars := by
  unfold ValidAlias at h
  unfold packageName
  split_ifs at h ⊢ with halias
  · exact h
  · refine ⟨fun hnil => ?_, fun c hc => h.2 c (List.mem_of_mem_take hc)⟩
    rcases List.take_eq_nil_iff.1 hnil with hzero | hnil
    · cases hzero
    · exact halias hnil

/-- A package is treated as it should be. With a consistent header: if its checksum matches under
its own name, it is 0 or matches under the name taken too, and there is room; if it does not match,
it is 0 or the import fails anyway. Without one: the import as a file fails for another reason. -/
def ConsistentHere (s : AiRuntime) (path : CString) (file : PackageFile) (aliasName : CString)
    (packageBytes : UInt32) : Prop :=
  (file.header.FieldsConsistent packageBytes → SumMatches file packageBytes file.ownName →
    ValidAlias file aliasName →
      (file.header.checksum = 0 ∨
        SumMatches file packageBytes (packageName file.ownName aliasName)) ∧
      HasRoom s packageBytes (packageName file.ownName aliasName)) ∧
  (file.header.FieldsConsistent packageBytes → ¬ SumMatches file packageBytes file.ownName →
    file.header.checksum = 0 ∨
      ¬ SumMatches file packageBytes (packageName file.ownName aliasName) ∨
      ¬ NameValid (packageName file.ownName aliasName).chars ∨
      ¬ HasRoom s packageBytes (packageName file.ownName aliasName)) ∧
  (¬ file.header.FieldsConsistent packageBytes →
    ¬ ImportsRaw s path file aliasName packageBytes)

instance (s : AiRuntime) (path : CString) (file : PackageFile) (aliasName : CString)
    (packageBytes : UInt32) : Decidable (ConsistentHere s path file aliasName packageBytes) :=
  inferInstanceAs (Decidable ((_ → _ → _ → _) ∧ (_ → _ → _) ∧ (_ → _)))

lemma SumMatches.readable {packageBytes : UInt32} {name : ModelName}
    (h : SumMatches file packageBytes name) :
    (hashStreamRange file file.header.headerSize.toNat file.header.payloadBytes.toNat).isSome := by
  obtain ⟨payloadHash, hhash, -⟩ := Option.map_eq_some_iff.1 h
  exact Option.isSome_iff_exists.2 ⟨payloadHash, hhash⟩

/-- A damaged package is refused and a sound one imported under every alias exactly in these
cases. -/
theorem treatsConsistently_iff (s : AiRuntime) (aliasName : CString) {packageBytes : UInt32}
    (h : file.IsPackage path packageBytes) :
    TreatsConsistently s path file aliasName packageBytes ↔
      ConsistentHere s path file aliasName packageBytes := by
  have hsome := import_isSome_iff s aliasName h
  have hnone : (aiRuntimeImportModelPackage s path file aliasName).2 = none ∧
      (aiRuntimeImportModelPackage s path file aliasName).1.models = s.models ↔
      ¬ (aiRuntimeImportModelPackage s path file aliasName).2.isSome := by
    rw [Option.not_isSome_iff_eq_none]
    exact and_iff_left_of_imp models_of_import_none
  have hiff : TreatsConsistently s path file aliasName packageBytes ↔
      (¬ file.header.FieldsConsistent packageBytes ∨
        (file.header.checksum ≠ 0 ∧ ¬ SumMatches file packageBytes file.ownName) →
        ¬ (aiRuntimeImportModelPackage s path file aliasName).2.isSome) ∧
      (file.header.FieldsConsistent packageBytes → SumMatches file packageBytes file.ownName →
        ValidAlias file aliasName →
        (aiRuntimeImportModelPackage s path file aliasName).2.isSome) := by
    rw [← hnone]
    exact ⟨fun h => ⟨h.damaged, h.renamed⟩, fun h => ⟨h.1, h.2⟩⟩
  rw [hiff, hsome, ConsistentHere]
  by_cases hconsistent : file.header.FieldsConsistent packageBytes
  · rw [if_pos hconsistent]
    by_cases hmatches : SumMatches file packageBytes file.ownName
    · simp only [hconsistent, hmatches, not_true_eq_false, and_false, false_or, false_implies,
        true_and, and_true, forall_const]
      refine forall_congr' fun halias => ?_
      exact ⟨fun himports => himports.2.2,
        fun hdue => ⟨hmatches.readable, validAlias_packageName halias, hdue⟩⟩
    · simp only [hconsistent, hmatches, not_true_eq_false, not_false_eq_true, and_true, true_and,
        false_or, false_implies, forall_const]
      constructor
      · intro hrefused
        refine or_iff_not_imp_left.2 fun hsum => ?_
        by_contra hnot
        obtain ⟨hsame, hname, hroom⟩ : SumMatches file packageBytes
            (packageName file.ownName aliasName) ∧
            NameValid (packageName file.ownName aliasName).chars ∧
            HasRoom s packageBytes (packageName file.ownName aliasName) :=
          ⟨by_contra fun h => hnot (Or.inl h), by_contra fun h => hnot (Or.inr (Or.inl h)),
            by_contra fun h => hnot (Or.inr (Or.inr h))⟩
        exact hrefused hsum ⟨hsame.readable, hname, Or.inr hsame, hroom⟩
      · rintro hdue hsum ⟨-, hname, hzero | hsame, hroom⟩
        · exact hsum hzero
        · rcases hdue with hzero | hother | hinvalid | hfull
          · exact hsum hzero
          · exact hother hsame
          · exact hinvalid hname
          · exact hfull hroom
  · simp only [hconsistent, if_false, not_false_eq_true, true_or, forall_const, false_implies,
      and_true, true_and]

/-- A package whose checksum matches is imported. -/
theorem treatsConsistently_sound : TreatsConsistently newRuntime (asciiText "/m")
    (headerFile 1 [68, 142, 172, 102]) [] 96 :=
  (treatsConsistently_iff newRuntime [] ⟨by decide, rfl, rfl, by decide, by decide⟩).2
    (by decide +kernel)

/-- A package of the schema 2 is imported. -/
theorem damagedPackage_imported : ¬ ∀ (s : AiRuntime) (path : CString) (file : PackageFile)
    (aliasName : CString) (packageBytes : UInt32), file.IsPackage path packageBytes →
      TreatsConsistently s path file aliasName packageBytes := by
  intro h
  have hdamaged := (h newRuntime (asciiText "/m") (headerFile 2 noChecksum) [] 96
    ⟨by decide, rfl, rfl, by decide, by decide⟩).damaged (Or.inl (by decide))
  have hsome : (importM (headerFile 2 noChecksum)).2 ≠ none := by decide +kernel
  exact hsome hdamaged.1

end NeuroSpark.Ai
