import NeuroSpark.Lib.Bytes
import NeuroSpark.Session.Model

/-!
# The session manifest

`storage_manifest_save` and `storage_manifest_load` of `storage_manager.c`. A manifest is a
`SessionManifest` in memory; the loader looks at the same bytes through the older
`SessionManifestV1`, so the memory layout of both structures is part of the model. Neither has
padding.
-/

namespace NeuroSpark

@[ext]
structure SessionTask where
  baseIntegration : Int32
  fireThreshold : Int32
  targetPixel : Int32

structure SnapshotFile where
  isUsed : Int32
  snapshotTag : Bytes 16

/-- The globals that a manifest stores. -/
@[ext]
structure Session where
  tick : UInt32
  zoomLevel : Int32
  zoomOffset : Int32
  taskList : Fin 2 → SessionTask
  potentials : Fin 16 → Int32
  synapseDisk : Fin 4 → SnapshotFile
  model : ModelManager

@[ext]
structure SessionManifestV1 where
  magic : UInt32
  version : UInt32
  tick : UInt32
  zoomLevel : Int32
  zoomOffset : Int32
  taskBaseIntegration : Fin 2 → Int32
  taskFireThreshold : Fin 2 → Int32
  taskTargetPixel : Fin 2 → Int32
  potentials : Fin 16 → Int32
  snapshotUsedMask : UInt32
  lineageTags : Fin 4 → Bytes 16

@[ext]
structure SessionManifest where
  magic : UInt32
  version : UInt32
  tick : UInt32
  checksum : UInt32
  zoomLevel : Int32
  zoomOffset : Int32
  taskBaseIntegration : Fin 2 → Int32
  taskFireThreshold : Fin 2 → Int32
  taskTargetPixel : Fin 2 → Int32
  potentials : Fin 16 → Int32
  snapshotUsedMask : UInt32
  lineageTags : Fin 4 → Bytes 16
  modelData : ModelManifestData

def sizeofSessionManifestV1 : Nat := 176
def sizeofSessionManifest : Nat := 436

def manifestMagic : UInt32 := 0x4D463838

/-- The six parameter tables of `ModelManifestData`, in their order. -/
def ModelManifestData.table (d : ModelManifestData) : Nat → Fin 2 → Fin 5 → Int32
  | 0 => d.tau
  | 1 => d.refractoryTicks
  | 2 => d.adaptationStep
  | 3 => d.learningRate
  | 4 => d.weightMin
  | _ => d.weightMax

/-- The words of `ModelManifestData`: two words, the models of the two tasks and the tables of ten
parameters each. -/
def ModelManifestData.word (d : ModelManifestData) (k : Nat) : UInt32 :=
  if k = 0 then d.version
  else if k = 1 then d.stdpEnabled
  else if k < 4 then d.taskModel (Fin.ofNat 2 (k - 2))
  else
    (d.table ((k - 4) / 10) (Fin.ofNat 2 ((k - 4) % 10 / 5)) (Fin.ofNat 5 ((k - 4) % 5))).toUInt32

/-- The 29 words of a manifest before the tags. -/
def SessionManifest.word (mf : SessionManifest) (k : Nat) : UInt32 :=
  if k = 0 then mf.magic
  else if k = 1 then mf.version
  else if k = 2 then mf.tick
  else if k = 3 then mf.checksum
  else if k = 4 then mf.zoomLevel.toUInt32
  else if k = 5 then mf.zoomOffset.toUInt32
  else if k < 8 then (mf.taskBaseIntegration (Fin.ofNat 2 (k - 6))).toUInt32
  else if k < 10 then (mf.taskFireThreshold (Fin.ofNat 2 (k - 8))).toUInt32
  else if k < 12 then (mf.taskTargetPixel (Fin.ofNat 2 (k - 10))).toUInt32
  else if k < 28 then (mf.potentials (Fin.ofNat 16 (k - 12))).toUInt32
  else mf.snapshotUsedMask

/-- A manifest in memory: 29 words, 64 bytes of tags, 64 words of model data. -/
def SessionManifest.toMemory (mf : SessionManifest) : Bytes 436 := Bytes.ofFun fun i =>
  if i < 116 then Le.byte (mf.word (i / 4)).toNat (i % 4)
  else if i < 180 then (mf.lineageTags (Fin.ofNat 4 ((i - 116) / 16))).get ((i - 116) % 16)
  else Le.byte (mf.modelData.word ((i - 180) / 4)).toNat (i % 4)

def fieldU32 (m : Bytes 436) (off : Nat) : UInt32 := UInt32.ofNat (m.le32 off)

def fieldI32 (m : Bytes 436) (off : Nat) : Int32 := (fieldU32 m off).toInt32

/-- Sixteen bytes of tag. -/
def fieldTag (m : Bytes 436) (off : Nat) : Bytes 16 := Bytes.ofFun fun j => m.get (off + j)

/-- The `ModelManifestData` at byte 180. -/
def ModelManifestData.ofMemory (m : Bytes 436) : ModelManifestData where
  version := fieldU32 m 180
  stdpEnabled := fieldU32 m 184
  taskModel t := fieldU32 m (188 + 4 * t)
  tau t n := fieldI32 m (196 + 20 * t + 4 * n)
  refractoryTicks t n := fieldI32 m (236 + 20 * t + 4 * n)
  adaptationStep t n := fieldI32 m (276 + 20 * t + 4 * n)
  learningRate t n := fieldI32 m (316 + 20 * t + 4 * n)
  weightMin t n := fieldI32 m (356 + 20 * t + 4 * n)
  weightMax t n := fieldI32 m (396 + 20 * t + 4 * n)

def SessionManifest.ofMemory (m : Bytes 436) : SessionManifest where
  magic := fieldU32 m 0
  version := fieldU32 m 4
  tick := fieldU32 m 8
  checksum := fieldU32 m 12
  zoomLevel := fieldI32 m 16
  zoomOffset := fieldI32 m 20
  taskBaseIntegration t := fieldI32 m (24 + 4 * t)
  taskFireThreshold t := fieldI32 m (32 + 4 * t)
  taskTargetPixel t := fieldI32 m (40 + 4 * t)
  potentials i := fieldI32 m (48 + 4 * i)
  snapshotUsedMask := fieldU32 m 112
  lineageTags s := fieldTag m (116 + 16 * s)
  modelData := ModelManifestData.ofMemory m

/-- The cast of the loader: there is no checksum word, so every field after `tick` is four bytes
earlier than in `SessionManifest`. -/
def SessionManifestV1.ofMemory (m : Bytes 436) : SessionManifestV1 where
  magic := fieldU32 m 0
  version := fieldU32 m 4
  tick := fieldU32 m 8
  zoomLevel := fieldI32 m 12
  zoomOffset := fieldI32 m 16
  taskBaseIntegration t := fieldI32 m (20 + 4 * t)
  taskFireThreshold t := fieldI32 m (28 + 4 * t)
  taskTargetPixel t := fieldI32 m (36 + 4 * t)
  potentials i := fieldI32 m (44 + 4 * i)
  snapshotUsedMask := fieldU32 m 108
  lineageTags s := fieldTag m (112 + 16 * s)

@[irreducible]
def manifestChecksum (data : Bytes 436) : UInt32 :=
  (List.range 436).foldl (fun sum i => ((sum <<< 5) ||| (sum >>> 27)) ^^^ (data.get i).toUInt32) 0

def buildBackupPath (path : CString) (outLen : Nat) : CString :=
  if path = [] then [] else path.take (outLen - 5) ++ [46, 98, 97, 107]

def manifestBlobValid (m : Bytes 436) (bytesRead : Int) : Bool :=
  let v1 := SessionManifestV1.ofMemory m
  let tmp := SessionManifest.ofMemory m
  if bytesRead < sizeofSessionManifestV1 then false
  else if v1.magic ≠ manifestMagic then false
  else if v1.version ≠ 1 ∧ v1.version ≠ 2 ∧ v1.version ≠ 3 then false
  else if v1.version = 3 then
    if bytesRead < sizeofSessionManifest then false
    else tmp.checksum = manifestChecksum { tmp with checksum := 0 }.toMemory
  else true

/-- The text in a character array. -/
def tagText (tag : Bytes 16) : CString := cString (tag.slice 0 16)

/-- `copy_text` into a buffer of 16 bytes: at most 15 characters and a NUL. The rest of the buffer
keeps its bytes. -/
def copyText (dst src : Bytes 16) : Bytes 16 :=
  dst.patch 0 ((tagText src).take 15 ++ [0])

/-- The file system under the storage manager: whole files are written and read by path. A write
returns the number of bytes written or an error; a read gives the bytes that it stored in the
buffer and its result. -/
structure FileStore (σ : Type) where
  vfsWriteFile : σ → CString → List UInt8 → σ × Int
  vfsReadFile : σ → CString → Nat → List UInt8 × Int

/-- A read returns the bytes last written to the path. -/
def FileStore.ReadsBack {σ : Type} (vfs : FileStore σ) : Prop :=
  ∀ st path data maxSize, (vfs.vfsWriteFile st path data).2 = data.length → data.length ≤ maxSize →
    vfs.vfsReadFile (vfs.vfsWriteFile st path data).1 path maxSize = (data, (data.length : Int))

section

variable {σ : Type} (vfs : FileStore σ)

def snapshotUsedMask (s : Session) : UInt32 :=
  (List.finRange 4).foldl
    (fun mask i => if (s.synapseDisk i).isUsed ≠ 0 then mask ||| (1 <<< UInt32.ofNat i) else mask) 0

/-- The manifest before its checksum is set. `stack` is what the local variable `mf` holds before
it is filled in: bytes of a tag after its NUL are not written. -/
def Session.manifest (s : Session) (stack : SessionManifest) : SessionManifest :=
  { magic := manifestMagic
    version := 3
    tick := s.tick
    checksum := 0
    zoomLevel := s.zoomLevel
    zoomOffset := s.zoomOffset
    taskBaseIntegration := fun t => (s.taskList t).baseIntegration
    taskFireThreshold := fun t => (s.taskList t).fireThreshold
    taskTargetPixel := fun t => (s.taskList t).targetPixel
    potentials := s.potentials
    snapshotUsedMask := snapshotUsedMask s
    lineageTags := fun i => copyText (stack.lineageTags i) (s.synapseDisk i).snapshotTag
    modelData := modelManifestCapture s.model }

/-- The manifest with its checksum, as it is written to the file. -/
def Session.savedManifest (s : Session) (stack : SessionManifest) : SessionManifest :=
  { s.manifest stack with checksum := manifestChecksum (s.manifest stack).toMemory }

def storageManifestSave (st : σ) (s : Session) (path : CString) (stack : SessionManifest) :
    σ × Bool :=
  if path = [] then (st, false)
  else
    let data := (s.savedManifest stack).toMemory.slice 0 sizeofSessionManifest
    let backupPath := buildBackupPath path 80
    let (st, n) :=
      if backupPath ≠ [] then vfs.vfsWriteFile st backupPath data
      else (st, (sizeofSessionManifest : Int))
    if n ≠ sizeofSessionManifest then (st, false)
    else
      let (st, n) := vfs.vfsWriteFile st path data
      (st, n = sizeofSessionManifest)

/-- What a valid manifest makes of the session. -/
def Session.restore (s : Session) (m : Bytes 436) (n : Int) : Session :=
  let v1 := SessionManifestV1.ofMemory m
  { s with
    zoomLevel := clampI32 v1.zoomLevel 1 4
    zoomOffset := clampI32 v1.zoomOffset 0 15
    taskList := fun t =>
      ⟨v1.taskBaseIntegration t, v1.taskFireThreshold t, v1.taskTargetPixel t⟩
    potentials := v1.potentials
    synapseDisk := fun i =>
      { s.synapseDisk i with
        snapshotTag := copyText (s.synapseDisk i).snapshotTag (v1.lineageTags i) }
    model :=
      if v1.version ≥ 2 ∧ n ≥ sizeofSessionManifestV1 then
        modelManifestApply s.model (SessionManifest.ofMemory m).modelData
      else s.model }

/-- `mf` and `mfBak` are what the two local variables hold before they are read into. -/
def storageManifestLoad (st : σ) (s : Session) (path : CString) (mf mfBak : Bytes 436) :
    Session × Bool :=
  if path = [] then (s, false)
  else
    let backupPath := buildBackupPath path 80
    let (data, n) := vfs.vfsReadFile st path sizeofSessionManifest
    let mf := mf.patch 0 data
    let (mf, n) :=
      if ¬ manifestBlobValid mf n ∧ backupPath ≠ [] then
        let (dataBak, nBak) := vfs.vfsReadFile st backupPath sizeofSessionManifest
        let mfBak := mfBak.patch 0 dataBak
        if manifestBlobValid mfBak nBak then (mfBak, nBak) else (mf, n)
      else (mf, n)
    if ¬ manifestBlobValid mf n then (s, false)
    else (s.restore mf n, true)

end

end NeuroSpark
