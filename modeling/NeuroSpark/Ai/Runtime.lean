import Mathlib.Data.List.FinRange
import Mathlib.Data.List.TakeWhile
import Mathlib.Logic.Function.Basic
import NeuroSpark.Ai.Hash

/-!
# The model runtime

The table of models of `ai_runtime.c`: loading a model, importing a model package from a file,
verifying a model and running it. The number `id` of an entry is its index and is not stored again.
Signed arithmetic wraps around.
-/

namespace NeuroSpark.Ai

/-- A text of the source. -/
def asciiText (s : String) : CString := s.toList.map fun c => UInt8.ofNat c.toNat

/-- What is in a `char name[16]`. -/
structure ModelName where
  chars : CString
  terminated : 0 ∉ chars
  fits : chars.length < 16
  deriving DecidableEq

def ModelName.empty : ModelName := ⟨[], List.not_mem_nil, by decide⟩

/-- `copy_name` to such a field. -/
def ModelName.copy (src : CString) : ModelName where
  chars := (cString src).take 15
  terminated h := by simpa using List.mem_takeWhile_imp (List.mem_of_mem_take h)
  fits := by
    rw [List.length_take]
    omega

structure AiModelInfo where
  active : Bool
  schemaVersion : UInt32
  kind : UInt32
  version : UInt32
  checksum : UInt32
  artifactHash : UInt32
  packageBytes : UInt32
  provenance : UInt32
  preferredBackend : UInt32
  seed : UInt32
  bias : Int32
  sourcePath : CString
  name : ModelName
  deriving DecidableEq

structure AiRuntimeStats where
  modelCount : UInt32
  activeBackend : UInt32
  loadOk : UInt32
  loadFail : UInt32
  verifyOk : UInt32
  verifyFail : UInt32
  inferOk : UInt32
  inferFail : UInt32
  lastHash : UInt32
  deriving DecidableEq

structure AiRuntime where
  models : Fin 8 → AiModelInfo
  stats : AiRuntimeStats

def aiModelKindAnn : UInt32 := 1
def aiModelKindSnn : UInt32 := 2
def aiBackendCpu : UInt32 := 0
def aiBackendNeuro : UInt32 := 1

/-- A letter, a digit, `_` or `-`. -/
def nameChar (c : UInt8) : Prop :=
  97 ≤ c ∧ c ≤ 122 ∨ 65 ≤ c ∧ c ≤ 90 ∨ 48 ≤ c ∧ c ≤ 57 ∨ c = 95 ∨ c = 45

instance (c : UInt8) : Decidable (nameChar c) :=
  inferInstanceAs (Decidable (_ ∨ _))

def NameValid (name : CString) : Prop := name ≠ [] ∧ ∀ c ∈ name, nameChar c

instance (name : CString) : Decidable (NameValid name) :=
  inferInstanceAs (Decidable (_ ∧ _))

def ValidBackend (backend : UInt32) : Prop := backend = aiBackendCpu ∨ backend = aiBackendNeuro

instance (backend : UInt32) : Decidable (ValidBackend backend) :=
  inferInstanceAs (Decidable (_ ∨ _))

def ValidKind (kind : UInt32) : Prop := kind = aiModelKindAnn ∨ kind = aiModelKindSnn

instance (kind : UInt32) : Decidable (ValidKind kind) :=
  inferInstanceAs (Decidable (_ ∨ _))

namespace AiRuntime

variable (s : AiRuntime)

def findModelIndex (name : CString) : Option (Fin 8) :=
  (List.finRange 8).find? fun i => (s.models i).active ∧ (s.models i).name.chars = name

def freeModelIndex : Option (Fin 8) := (List.finRange 8).find? fun i => ¬ (s.models i).active

/-- The entry that a model with a name goes to. -/
def storeIndex (name : CString) : Option (Fin 8) := (s.findModelIndex name).or s.freeModelIndex

def activeCount : Nat := (List.finRange 8).countP fun i => (s.models i).active

def setModel (i : Fin 8) (m : AiModelInfo) : AiRuntime :=
  { s with models := Function.update s.models i m }

def failLoad : AiRuntime := { s with stats.loadFail := s.stats.loadFail + 1 }

end AiRuntime

/-- A bias out of range is not stored. -/
def storedBias (bias : Int32) : Int32 := if bias < -100000 ∨ 100000 < bias then 0 else bias

/-- The arguments of `store_model`. -/
structure StoreArgs where
  name : CString
  sourcePath : CString
  schemaVersion : UInt32
  kind : UInt32
  version : UInt32
  preferredBackend : UInt32
  seed : UInt32
  provenance : UInt32
  bias : Int32
  artifactHash : UInt32
  packageBytes : UInt32
  checksum : UInt32

/-- The first tests of `store_model`. -/
def StoreArgs.Valid (a : StoreArgs) : Prop :=
  NameValid a.name ∧ ValidKind a.kind ∧ ValidBackend a.preferredBackend

instance (a : StoreArgs) : Decidable a.Valid := inferInstanceAs (Decidable (_ ∧ _))

/-- The entry that `store_model` writes. -/
def StoreArgs.entry (a : StoreArgs) : AiModelInfo where
  active := true
  schemaVersion := a.schemaVersion
  kind := a.kind
  version := a.version
  checksum := a.checksum
  artifactHash := a.artifactHash
  packageBytes := a.packageBytes
  provenance := a.provenance
  preferredBackend := a.preferredBackend
  seed := a.seed
  bias := storedBias a.bias
  sourcePath := a.sourcePath.take 47
  name := .copy a.name

/-- `store_model` writes an entry. -/
def AiRuntime.storeAt (s : AiRuntime) (a : StoreArgs) (i : Fin 8) : AiRuntime :=
  let s := s.setModel i a.entry
  { s with
    stats.loadOk := s.stats.loadOk + 1
    stats.lastHash := a.checksum
    stats.modelCount := UInt32.ofNat s.activeCount }

/-- `store_model`; `none` when it returns 0. -/
def storeModel (s : AiRuntime) (a : StoreArgs) : Option AiRuntime :=
  if a.Valid then (s.storeIndex a.name).map (s.storeAt a) else none

/-- What `ai_runtime_load_model` stores. -/
def memoryArgs (name : CString) (kind version preferredBackend seed provenance : UInt32) :
    StoreArgs :=
  let artifactHash :=
    mixU32 (seed ^^^ provenance ^^^ (version <<< 1) ^^^ kind ^^^ preferredBackend)
  { name := name
    sourcePath := asciiText "<memory>"
    schemaVersion := 0
    kind := kind
    version := version
    preferredBackend := preferredBackend
    seed := seed
    provenance := provenance
    bias := 0
    artifactHash := artifactHash
    packageBytes := 0
    checksum := modelPackageHash
      ⟨name, kind, version, preferredBackend, seed, provenance, 0, 0, artifactHash, 0, 0⟩ }

def aiRuntimeLoadModel (s : AiRuntime) (name : CString) (kind version preferredBackend seed
    provenance : UInt32) : AiRuntime × Bool :=
  if ¬ NameValid name ∨ ¬ ValidKind kind ∨ ¬ ValidBackend preferredBackend then (s.failLoad, false)
  else
    match storeModel s (memoryArgs name kind version preferredBackend seed provenance) with
    | none => (s.failLoad, false)
    | some s => (s, true)

/-- What the VFS says of a path: its size, whether it can be opened, and its contents. -/
structure PackageFile where
  stat : Option UInt32
  opens : Bool
  bytes : List UInt8

/-- The chunks of a range, hashed one after another. -/
def hashChunks (bytes : List UInt8) : Nat → Nat → Nat → UInt32 → Option UInt32
  | 0, _, _, _ => none
  | fuel + 1, pos, remaining, h =>
    if remaining = 0 then some h
    else
      let want := min remaining 512
      let chunk := (bytes.drop pos).take want
      if chunk.length ≠ want then none
      else hashChunks bytes fuel (pos + want) (remaining - want) (hashUpdate h chunk)

def hashStreamRange (file : PackageFile) (start len : Nat) : Option UInt32 :=
  hashChunks file.bytes (len / 512 + 2) start len hashInit

/-- The little-endian word at an offset. -/
def wordLe (bytes : List UInt8) (off : Nat) : UInt32 :=
  (bytes.getD off 0).toUInt32 ||| (bytes.getD (off + 1) 0).toUInt32 <<< 8 |||
    (bytes.getD (off + 2) 0).toUInt32 <<< 16 ||| (bytes.getD (off + 3) 0).toUInt32 <<< 24

structure AiModelPackageHeaderV1 where
  magic : UInt32
  schemaVersion : UInt32
  headerSize : UInt32
  packageSize : UInt32
  modelKind : UInt32
  preferredBackend : UInt32
  modelVersion : UInt32
  seed : UInt32
  provenance : UInt32
  bias : Int32
  payloadBytes : UInt32
  checksum : UInt32
  modelName : CString

def sizeofHeader : Nat := 96

/-- The header as it lies in a file. -/
def AiModelPackageHeaderV1.ofBytes (bytes : List UInt8) : AiModelPackageHeaderV1 where
  magic := wordLe bytes 0
  schemaVersion := wordLe bytes 4
  headerSize := wordLe bytes 8
  packageSize := wordLe bytes 12
  modelKind := wordLe bytes 16
  preferredBackend := wordLe bytes 20
  modelVersion := wordLe bytes 24
  seed := wordLe bytes 28
  provenance := wordLe bytes 32
  bias := (wordLe bytes 36).toInt32
  payloadBytes := wordLe bytes 40
  checksum := wordLe bytes 44
  modelName := cString ((bytes.drop 48).take 16)

def aiModelPackageMagic : UInt32 := 0x314D4941
def aiModelPackageSchemaV1 : UInt32 := 1
def aiModelPackageMaxBytes : Nat := 67108864

namespace AiModelPackageHeaderV1

variable (hdr : AiModelPackageHeaderV1)

/-- The tests of the fields after the magic, for a file of some size. -/
def FieldsConsistent (packageBytes : UInt32) : Prop :=
  hdr.schemaVersion = aiModelPackageSchemaV1 ∧ hdr.headerSize.toNat = sizeofHeader ∧
    hdr.packageSize = packageBytes ∧ ValidKind hdr.modelKind ∧ ValidBackend hdr.preferredBackend ∧
    hdr.payloadBytes ≤ packageBytes - hdr.headerSize

instance (packageBytes : UInt32) : Decidable (hdr.FieldsConsistent packageBytes) :=
  inferInstanceAs (Decidable (_ ∧ _))

def Consistent (packageBytes : UInt32) : Prop :=
  hdr.magic = aiModelPackageMagic ∧ hdr.FieldsConsistent packageBytes

instance (packageBytes : UInt32) : Decidable (hdr.Consistent packageBytes) :=
  inferInstanceAs (Decidable (_ ∧ _))

end AiModelPackageHeaderV1

def derivedChar (c : UInt8) : UInt8 := if nameChar c then c else 95

/-- `derive_name_from_path`: what is behind the last slash, up to a dot. -/
def deriveNameFromPath (path : CString) : ModelName :=
  let base := (path.reverse.takeWhile (· ≠ slash)).reverse
  let name := (base.takeWhile (· ≠ 46)).map derivedChar
  if NameValid (name.take 15) then .copy name else .copy (asciiText "model")

/-- The name under which a package with a name of its own is imported. -/
def packageName (own : ModelName) (aliasName : CString) : ModelName :=
  if cString aliasName = [] then own else .copy aliasName

/-- What is imported, before it is stored. -/
structure PackageContents where
  name : ModelName
  schemaVersion : UInt32
  kind : UInt32
  preferredBackend : UInt32
  version : UInt32
  seed : UInt32
  provenance : UInt32
  bias : Int32
  payloadBytes : UInt32
  payloadHash : UInt32
  packageBytes : UInt32
  deriving DecidableEq

/-- What `expected_hash` is the hash of. -/
def PackageContents.fields (p : PackageContents) : PackageFields :=
  ⟨p.name.chars, p.kind, p.version, p.preferredBackend, p.seed, p.provenance, p.bias,
    p.payloadBytes, p.payloadHash, p.schemaVersion, p.packageBytes⟩

/-- `expected_hash`. -/
def PackageContents.hash (p : PackageContents) : UInt32 := modelPackageHash p.fields

/-- A package under a name. -/
def AiModelPackageHeaderV1.contents (hdr : AiModelPackageHeaderV1)
    (packageBytes payloadHash : UInt32) (name : ModelName) : PackageContents where
  name := name
  schemaVersion := hdr.schemaVersion
  kind := hdr.modelKind
  preferredBackend := hdr.preferredBackend
  version := hdr.modelVersion
  seed := hdr.seed
  provenance := hdr.provenance
  bias := hdr.bias
  payloadBytes := hdr.payloadBytes
  payloadHash := payloadHash
  packageBytes := packageBytes

/-- A package with a header; `none` when the import is given up. -/
def structuredPackage (file : PackageFile) (hdr : AiModelPackageHeaderV1) (packageBytes : UInt32)
    (aliasName : CString) : Option PackageContents :=
  match hashStreamRange file hdr.headerSize.toNat hdr.payloadBytes.toNat with
  | none => none
  | some payloadHash =>
    let p := hdr.contents packageBytes payloadHash (packageName (.copy hdr.modelName) aliasName)
    if ¬ NameValid p.name.chars then none
    else if hdr.checksum ≠ 0 ∧ hdr.checksum ≠ p.hash then none
    else some p

/-- Any other file under a name. -/
def rawContents (packageBytes payloadHash : UInt32) (name : ModelName) : PackageContents where
  name := name
  schemaVersion := 0
  kind := aiModelKindAnn
  preferredBackend := aiBackendCpu
  version := 1
  seed := packageBytes
  provenance := mixU32 (packageBytes ^^^ 0xA11C0DE)
  bias := 0
  payloadBytes := packageBytes
  payloadHash := payloadHash
  packageBytes := packageBytes

/-- Any other file. -/
def rawPackage (path : CString) (file : PackageFile) (packageBytes : UInt32) (aliasName : CString) :
    Option PackageContents :=
  match hashStreamRange file 0 packageBytes.toNat with
  | none => none
  | some payloadHash =>
    let p := rawContents packageBytes payloadHash (packageName (deriveNameFromPath path) aliasName)
    if ¬ NameValid p.name.chars then none else some p

/-- The size of a file that can be imported, and its header. -/
def openPackage (path : CString) (file : PackageFile) : Option (UInt32 × AiModelPackageHeaderV1) :=
  if path = [] then none
  else
    match file.stat with
    | none => none
    | some size =>
      if size.toNat < sizeofHeader ∨ aiModelPackageMaxBytes < size.toNat then none
      else if ¬ file.opens ∨ file.bytes.length < sizeofHeader then none
      else some (size, .ofBytes file.bytes)

/-- What a file gives under an alias. -/
def readPackage (path : CString) (file : PackageFile) (aliasName : CString) :
    Option PackageContents :=
  (openPackage path file).bind fun (packageBytes, hdr) =>
    if hdr.Consistent packageBytes then structuredPackage file hdr packageBytes aliasName
    else rawPackage path file packageBytes aliasName

lemma structuredPackage_eq_some_iff {file : PackageFile} {hdr : AiModelPackageHeaderV1}
    {packageBytes : UInt32} {aliasName : CString} {p : PackageContents} :
    structuredPackage file hdr packageBytes aliasName = some p ↔
      ∃ payloadHash, hashStreamRange file hdr.headerSize.toNat hdr.payloadBytes.toNat =
          some payloadHash ∧
        p = hdr.contents packageBytes payloadHash (packageName (.copy hdr.modelName) aliasName) ∧
        NameValid p.name.chars ∧ (hdr.checksum = 0 ∨ hdr.checksum = p.hash) := by
  unfold structuredPackage
  cases hashStreamRange file hdr.headerSize.toNat hdr.payloadBytes.toNat with
  | none => simp
  | some payloadHash =>
    simp only [Option.some.injEq, exists_eq_left']
    constructor
    · intro h
      split_ifs at h with hname hsum
      cases h
      exact ⟨rfl, hname, by tauto⟩
    · rintro ⟨rfl, hname, hsum⟩
      rw [if_neg (not_not.2 hname), if_neg (by tauto)]

lemma rawPackage_eq_some_iff {path : CString} {file : PackageFile} {packageBytes : UInt32}
    {aliasName : CString} {p : PackageContents} :
    rawPackage path file packageBytes aliasName = some p ↔
      ∃ payloadHash, hashStreamRange file 0 packageBytes.toNat = some payloadHash ∧
        p = rawContents packageBytes payloadHash
          (packageName (deriveNameFromPath path) aliasName) ∧ NameValid p.name.chars := by
  unfold rawPackage
  cases hashStreamRange file 0 packageBytes.toNat with
  | none => simp
  | some payloadHash =>
    simp only [Option.some.injEq, exists_eq_left']
    constructor
    · intro h
      split_ifs at h with hname
      cases h
      exact ⟨rfl, hname⟩
    · rintro ⟨rfl, hname⟩
      rw [if_neg (not_not.2 hname)]

/-- What is stored of a package. -/
def PackageContents.args (p : PackageContents) (path : CString) : StoreArgs where
  name := p.name.chars
  sourcePath := path
  schemaVersion := p.schemaVersion
  kind := p.kind
  version := p.version
  preferredBackend := p.preferredBackend
  seed := p.seed
  provenance := p.provenance
  bias := p.bias
  artifactHash := p.payloadHash
  packageBytes := p.packageBytes
  checksum := p.hash

/-- The result, with what `out_info` is given. -/
def aiRuntimeImportModelPackage (s : AiRuntime) (path : CString) (file : PackageFile)
    (aliasName : CString) : AiRuntime × Option PackageContents :=
  match readPackage path file aliasName with
  | none => (s.failLoad, none)
  | some p =>
    match storeModel s (p.args path) with
    | none => (s.failLoad, none)
    | some s => (s, some p)

/-- The hash that the verifier computes. -/
def AiModelInfo.verifierHash (m : AiModelInfo) : UInt32 :=
  modelPackageHash ⟨m.name.chars, m.kind, m.version, m.preferredBackend, m.seed, m.provenance,
    m.bias, m.packageBytes, m.artifactHash, m.schemaVersion, m.packageBytes⟩

/-- The checksum, when it is as computed. -/
def aiRuntimeVerifyModel (s : AiRuntime) (name : CString) : AiRuntime × Option UInt32 :=
  match s.findModelIndex name with
  | none => ({ s with stats.verifyFail := s.stats.verifyFail + 1 }, none)
  | some i =>
    let computed := (s.models i).verifierHash
    if computed ≠ (s.models i).checksum then
      ({ s with stats.verifyFail := s.stats.verifyFail + 1 }, none)
    else
      ({ s with
          stats.verifyOk := s.stats.verifyOk + 1
          stats.lastHash := computed }, some computed)

/-- The output and the hash of `cpu_backend_infer`. -/
def cpuBackendInfer (m : AiModelInfo) (inputValue : Int32) (seed : UInt32) : Int32 × UInt32 :=
  let s := if seed ≠ 0 then seed else m.seed
  let s := mixU32 (s ^^^ (inputValue + 0x13579).toUInt32)
  let s := mixU32 (s ^^^ m.checksum)
  let s := mixU32 (s ^^^ m.artifactHash)
  let out := (s % 2048).toInt32 + inputValue + m.bias
  (if m.kind = aiModelKindSnn then out + ((s >>> 8) &&& 0x3F).toInt32 else out, s)

/-- The output and the hash of `neuro_backend_infer`. -/
def neuroBackendInfer (m : AiModelInfo) (inputValue : Int32) (seed : UInt32) : Int32 × UInt32 :=
  let s := if seed ≠ 0 then seed else m.seed
  let s := mixU32 (s ^^^ (inputValue.toUInt32 + 0x2468B))
  let s := mixU32 (s ^^^ (m.checksum <<< 1))
  let s := mixU32 (s ^^^ m.artifactHash ^^^ 0x5A5AA11)
  let out := (s % 1024).toInt32 + inputValue * (2 : Int32) + m.bias + ((s >>> 7) &&& 0x7F).toInt32
  (if m.kind = aiModelKindSnn then out + ((s >>> 3) &&& 0x3F).toInt32 else out, s)

/-- The backends that there are. -/
def resolveBackend (backend : UInt32) : Option (AiModelInfo → Int32 → UInt32 → Int32 × UInt32) :=
  if backend = aiBackendCpu then some cpuBackendInfer
  else if backend = aiBackendNeuro then some neuroBackendInfer
  else none

/-- The output, when it returns 1. -/
def aiRuntimeInfer (s : AiRuntime) (name : CString) (inputValue : Int32) (seed : UInt32) :
    AiRuntime × Option Int32 :=
  match s.findModelIndex name with
  | none => ({ s with stats.inferFail := s.stats.inferFail + 1 }, none)
  | some i =>
    match resolveBackend s.stats.activeBackend with
    | none => ({ s with stats.inferFail := s.stats.inferFail + 1 }, none)
    | some infer =>
      let (out, hash) := infer (s.models i) inputValue seed
      ({ s with
          stats.inferOk := s.stats.inferOk + 1
          stats.lastHash := hash }, some out)

def aiRuntimeGetModelBias (s : AiRuntime) (name : CString) : Option Int32 :=
  (s.findModelIndex name).map fun i => (s.models i).bias

def clampedBias (bias : Int32) : Int32 :=
  let bias := if bias < -100000 then -100000 else bias
  if bias > 100000 then 100000 else bias

def aiRuntimeSetModelBias (s : AiRuntime) (name : CString) (bias : Int32) : AiRuntime × Bool :=
  match s.findModelIndex name with
  | none => (s, false)
  | some i => (s.setModel i { s.models i with bias := clampedBias bias }, true)

def aiRuntimeInit (models : Fin 8 → AiModelInfo) : AiRuntime where
  models i :=
    { models i with
      active := false
      schemaVersion := 0
      name := ModelName.empty
      sourcePath := []
      bias := 0 }
  stats := ⟨0, aiBackendCpu, 0, 0, 0, 0, 0, 0, 0⟩

end NeuroSpark.Ai
