import Mathlib.Data.Fintype.Basic
import Mathlib.Data.List.TakeWhile
import Mathlib.Tactic.FinCases
import NeuroSpark.Session.Manifest

/-!
# What a saved session looks like after it is loaded

`storage_manifest_save` writes a `SessionManifest`, with a checksum word after `tick`, and
`storage_manifest_load` reads it through `SessionManifestV1`, which has no such word. Every field
but the model data is restored from the word before its own. The load gives back the session that
was saved exactly when the two coincide.
-/

namespace NeuroSpark

/-! ### Fields of a manifest in memory -/

section

variable (mf : SessionManifest)

lemma SessionManifest.get_toMemory {i : Nat} (hi : i < 436) : mf.toMemory.get i =
      if i < 116 then Le.byte (mf.word (i / 4)).toNat (i % 4)
      else if i < 180 then (mf.lineageTags (Fin.ofNat 4 ((i - 116) / 16))).get ((i - 116) % 16)
      else Le.byte (mf.modelData.word ((i - 180) / 4)).toNat (i % 4) :=
  Bytes.get_ofFun _ hi

lemma SessionManifest.fieldU32_head {k : Nat} (hk : k < 29) :
    fieldU32 mf.toMemory (4 * k) = mf.word k := by
  have h : mf.toMemory.le32 (4 * k) = (mf.word k).toNat := by
    apply Bytes.le32_of_bytes (UInt32.toNat_lt _)
    intro j hj
    have hdiv : (4 * k + j) / 4 = k := by omega
    have hmod : (4 * k + j) % 4 = j := by omega
    rw [mf.get_toMemory (by omega), if_pos (by omega), hdiv, hmod]
  rw [fieldU32, h, UInt32.ofNat_toNat]

lemma SessionManifest.fieldU32_model {k : Nat} (hk : k < 64) :
    fieldU32 mf.toMemory (180 + 4 * k) = mf.modelData.word k := by
  have h : mf.toMemory.le32 (180 + 4 * k) = (mf.modelData.word k).toNat := by
    apply Bytes.le32_of_bytes (UInt32.toNat_lt _)
    intro j hj
    have hdiv : (180 + 4 * k + j - 180) / 4 = k := by omega
    have hmod : (180 + 4 * k + j) % 4 = j := by omega
    rw [mf.get_toMemory (by omega), if_neg (by omega), if_neg (by omega), hdiv, hmod]
  rw [fieldU32, h, UInt32.ofNat_toNat]

lemma SessionManifest.fieldTag_toMemory (s : Fin 4) :
    fieldTag mf.toMemory (116 + 16 * s) = mf.lineageTags s := by
  apply Bytes.ext_get
  intro j hj
  have hs : Fin.ofNat 4 ((116 + 16 * (s : Nat) + j - 116) / 16) = s := by
    apply Fin.ext
    simp only [Fin.ofNat]
    omega
  have hmod : (116 + 16 * (s : Nat) + j - 116) % 16 = j := by omega
  rw [fieldTag, Bytes.get_ofFun _ hj, mf.get_toMemory (by omega), if_neg (by omega),
    if_pos (by omega), hs, hmod]

lemma SessionManifest.fieldI32_table {i : Nat} (hi : i < 6) (t : Fin 2) (n : Fin 5) :
    fieldI32 mf.toMemory (196 + 40 * i + 20 * t + 4 * n) = mf.modelData.table i t n := by
  have hoff : 196 + 40 * i + 20 * (t : Nat) + 4 * n = 180 + 4 * (4 + (10 * i + 5 * t + n)) := by
    omega
  have hk : 4 + (10 * i + 5 * (t : Nat) + n) - 4 = 10 * i + 5 * t + n := by omega
  have hdiv : (10 * i + 5 * (t : Nat) + n) / 10 = i := by omega
  have ht : Fin.ofNat 2 ((10 * i + 5 * (t : Nat) + n) % 10 / 5) = t := by
    apply Fin.ext
    simp only [Fin.ofNat]
    omega
  have hn : Fin.ofNat 5 ((10 * i + 5 * (t : Nat) + n) % 5) = n := by
    apply Fin.ext
    simp only [Fin.ofNat]
    omega
  rw [fieldI32, hoff, mf.fieldU32_model (by omega), ModelManifestData.word, if_neg (by omega),
    if_neg (by omega), if_neg (by omega), hk, hdiv, ht, hn, Int32.toInt32_toUInt32]

lemma SessionManifest.modelData_toMemory :
    ModelManifestData.ofMemory mf.toMemory = mf.modelData := by
  apply ModelManifestData.ext
  · exact mf.fieldU32_model (k := 0) (by omega)
  · exact mf.fieldU32_model (k := 1) (by omega)
  · funext t
    have h := mf.fieldU32_model (k := 2 + t) (by omega)
    have hoff : 180 + 4 * (2 + (t : Nat)) = 188 + 4 * t := by omega
    rw [hoff] at h
    simp only [ModelManifestData.ofMemory]
    rw [h, ModelManifestData.word]
    fin_cases t <;> rfl
  · exact funext₂ (mf.fieldI32_table (i := 0) (by omega))
  · exact funext₂ (mf.fieldI32_table (i := 1) (by omega))
  · exact funext₂ (mf.fieldI32_table (i := 2) (by omega))
  · exact funext₂ (mf.fieldI32_table (i := 3) (by omega))
  · exact funext₂ (mf.fieldI32_table (i := 4) (by omega))
  · exact funext₂ (mf.fieldI32_table (i := 5) (by omega))

lemma SessionManifest.fieldI32_head {k off : Nat} {v : Int32} (hoff : off = 4 * k) (hk : k < 29)
    (hv : mf.word k = v.toUInt32) :
    fieldI32 mf.toMemory off = v := by
  rw [fieldI32, hoff, mf.fieldU32_head hk, hv, Int32.toInt32_toUInt32]

lemma SessionManifest.ofMemory_toMemory : SessionManifest.ofMemory mf.toMemory = mf := by
  apply SessionManifest.ext
  · exact mf.fieldU32_head (k := 0) (by omega)
  · exact mf.fieldU32_head (k := 1) (by omega)
  · exact mf.fieldU32_head (k := 2) (by omega)
  · exact mf.fieldU32_head (k := 3) (by omega)
  · exact mf.fieldI32_head (k := 4) rfl (by omega) rfl
  · exact mf.fieldI32_head (k := 5) rfl (by omega) rfl
  · funext t
    refine mf.fieldI32_head (k := 6 + t) (by omega) (by omega) ?_
    fin_cases t <;> rfl
  · funext t
    refine mf.fieldI32_head (k := 8 + t) (by omega) (by omega) ?_
    fin_cases t <;> rfl
  · funext t
    refine mf.fieldI32_head (k := 10 + t) (by omega) (by omega) ?_
    fin_cases t <;> rfl
  · funext i
    refine mf.fieldI32_head (k := 12 + i) (by omega) (by omega) ?_
    fin_cases i <;> rfl
  · exact mf.fieldU32_head (k := 28) (by omega)
  · exact funext mf.fieldTag_toMemory
  · exact mf.modelData_toMemory

end

lemma tagText_copyText (dst src : Bytes 16) :
    tagText (copyText dst src) = (tagText src).take 15 := by
  obtain ⟨l, hl⟩ : ∃ l, l = (tagText src).take 15 := ⟨_, rfl⟩
  have hlen : l.length ≤ 15 := by rw [hl]; exact List.length_take_le _ _
  have hnz : ∀ c ∈ l, c ≠ 0 := by
    intro c hc
    rw [hl] at hc
    simpa using List.mem_takeWhile_imp (List.mem_of_mem_take hc)
  have hsplit : (dst.patch 0 (l ++ [0])).slice 0 16 =
      l ++ 0 :: (dst.patch 0 (l ++ [0])).slice (0 + (l ++ [0]).length) (15 - l.length) := by
    have h16 : (l ++ [0]).length + (15 - l.length) = 16 := by simp; omega
    have h := Bytes.slice_add (dst.patch 0 (l ++ [0])) 0 (l ++ [0]).length (15 - l.length)
    rw [h16, Bytes.slice_patch_same _ _ _ (by omega)] at h
    simpa using h
  rw [tagText, copyText, ← hl, hsplit, cString,
    List.takeWhile_append_of_pos fun c hc => by simpa using hnz c hc]
  simp

/-- The sixteen bytes that begin four bytes before a tag: the end of the tag before it, for the
first tag the mask of used slots, and the first twelve bytes of the tag itself. -/
def SessionManifest.tagWindow (mf : SessionManifest) (s : Fin 4) : Bytes 16 := Bytes.ofFun fun j =>
  if j < 4 then
    if s = 0 then Le.byte mf.snapshotUsedMask.toNat j
    else (mf.lineageTags (s - 1)).get (12 + j)
  else (mf.lineageTags s).get (j - 4)

lemma SessionManifest.fieldTag_shifted (mf : SessionManifest) (s : Fin 4) :
    fieldTag mf.toMemory (112 + 16 * s) = mf.tagWindow s := by
  apply Bytes.ext_get
  intro j hj
  rw [fieldTag, tagWindow, Bytes.get_ofFun _ hj, Bytes.get_ofFun _ hj, mf.get_toMemory (by omega)]
  by_cases hj4 : j < 4
  · rw [if_pos hj4]
    by_cases hs : s = 0
    · subst hs
      have hdiv : (112 + 16 * ((0 : Fin 4) : Nat) + j) / 4 = 28 := by omega
      have hmod : (112 + 16 * ((0 : Fin 4) : Nat) + j) % 4 = j := by omega
      rw [if_pos (by omega), if_pos rfl, hdiv, hmod]
      rfl
    · have hpos : 0 < (s : Nat) := Nat.pos_of_ne_zero fun h => hs (Fin.ext h)
      have hidx : Fin.ofNat 4 ((112 + 16 * (s : Nat) + j - 116) / 16) = s - 1 := by
        have hdiv : (112 + 16 * (s : Nat) + j - 116) / 16 = s - 1 := by omega
        rw [hdiv]
        clear hpos hdiv
        revert s
        decide
      have hmod : (112 + 16 * (s : Nat) + j - 116) % 16 = 12 + j := by omega
      rw [if_neg (by omega), if_pos (by omega), if_neg hs, hidx, hmod]
  · have hidx : Fin.ofNat 4 ((112 + 16 * (s : Nat) + j - 116) / 16) = s := by
      apply Fin.ext
      simp only [Fin.ofNat]
      omega
    have hmod : (112 + 16 * (s : Nat) + j - 116) % 16 = j - 4 := by omega
    rw [if_neg (by omega), if_pos (by omega), if_neg hj4, hidx, hmod]

/-- Read as a `SessionManifestV1`, every field after `tick` has the value of the field before it. -/
lemma SessionManifestV1.ofMemory_toMemory (mf : SessionManifest) :
    SessionManifestV1.ofMemory mf.toMemory =
      { magic := mf.magic
        version := mf.version
        tick := mf.tick
        zoomLevel := mf.checksum.toInt32
        zoomOffset := mf.zoomLevel
        taskBaseIntegration := fun t => if t = 0 then mf.zoomOffset else mf.taskBaseIntegration 0
        taskFireThreshold := fun t =>
          if t = 0 then mf.taskBaseIntegration 1 else mf.taskFireThreshold 0
        taskTargetPixel := fun t =>
          if t = 0 then mf.taskFireThreshold 1 else mf.taskTargetPixel 0
        potentials := fun i => if i = 0 then mf.taskTargetPixel 1 else mf.potentials (i - 1)
        snapshotUsedMask := (mf.potentials 15).toUInt32
        lineageTags := mf.tagWindow } := by
  apply SessionManifestV1.ext
  · exact mf.fieldU32_head (k := 0) (by omega)
  · exact mf.fieldU32_head (k := 1) (by omega)
  · exact mf.fieldU32_head (k := 2) (by omega)
  · exact mf.fieldI32_head (k := 3) rfl (by omega) rfl
  · exact mf.fieldI32_head (k := 4) rfl (by omega) rfl
  · funext t
    refine mf.fieldI32_head (k := 5 + t) (by omega) (by omega) ?_
    fin_cases t <;> rfl
  · funext t
    refine mf.fieldI32_head (k := 7 + t) (by omega) (by omega) ?_
    fin_cases t <;> rfl
  · funext t
    refine mf.fieldI32_head (k := 9 + t) (by omega) (by omega) ?_
    fin_cases t <;> rfl
  · funext i
    refine mf.fieldI32_head (k := 11 + i) (by omega) (by omega) ?_
    fin_cases i <;> rfl
  · exact mf.fieldU32_head (k := 27) (by omega)
  · exact funext mf.fieldTag_shifted

/-! ### Save, then load -/

lemma Session.savedManifest_valid (s : Session) (stack : SessionManifest) :
    manifestBlobValid (s.savedManifest stack).toMemory sizeofSessionManifest = true := by
  simp only [manifestBlobValid, SessionManifestV1.ofMemory_toMemory,
    SessionManifest.ofMemory_toMemory]
  simp [savedManifest, manifest, sizeofSessionManifest, sizeofSessionManifestV1]

section

variable {σ : Type} {vfs : FileStore σ}

lemma storageManifestSave_readBack (hv : vfs.ReadsBack) {st : σ} {s : Session} {path : CString}
    {stack : SessionManifest} (h : (storageManifestSave vfs st s path stack).2 = true) :
    path ≠ [] ∧
      vfs.vfsReadFile (storageManifestSave vfs st s path stack).1 path sizeofSessionManifest =
        ((s.savedManifest stack).toMemory.slice 0 sizeofSessionManifest,
          (sizeofSessionManifest : Int)) := by
  unfold storageManifestSave at h ⊢
  by_cases hp : path = []
  · simp [hp] at h
  · refine ⟨hp, ?_⟩
    simp only [hp, if_false] at h ⊢
    have hlen : ((s.savedManifest stack).toMemory.slice 0 sizeofSessionManifest).length =
      sizeofSessionManifest := by rw [Bytes.length_slice]
    generalize (s.savedManifest stack).toMemory.slice 0 sizeofSessionManifest = data at h hlen ⊢
    -- whatever the write of the backup did, the last write is the one to the path
    generalize (if buildBackupPath path 80 ≠ [] then
      vfs.vfsWriteFile st (buildBackupPath path 80) data
      else (st, (sizeofSessionManifest : Int))) = bak at h ⊢
    split_ifs at h ⊢ with hbak
    have hn := of_decide_eq_true h
    rw [← hlen] at hn
    rw [hv _ path data sizeofSessionManifest hn hlen.le, hlen]

lemma storageManifestLoad_of_valid {st : σ} {s : Session} {path : CString} {m mf mfBak : Bytes 436}
    (hp : path ≠ []) (hm : manifestBlobValid m sizeofSessionManifest = true)
    (hr : vfs.vfsReadFile st path sizeofSessionManifest =
      (m.slice 0 sizeofSessionManifest, (sizeofSessionManifest : Int))) :
    storageManifestLoad vfs st s path mf mfBak = (s.restore m sizeofSessionManifest, true) := by
  have hpatch : mf.patch 0 (m.slice 0 sizeofSessionManifest) = m := Bytes.patch_slice_all mf m
  simp only [storageManifestLoad, hp, if_false, hr, hpatch, hm, not_true_eq_false, false_and]

end

variable {s : Session}

/-- The session states the manifest is meant for. -/
structure Session.Storable (s : Session) : Prop where
  zoomLevel : 1 ≤ s.zoomLevel ∧ s.zoomLevel ≤ 4
  zoomOffset : 0 ≤ s.zoomOffset ∧ s.zoomOffset ≤ 15
  tags : ∀ i, (tagText (s.synapseDisk i).snapshotTag).length ≤ 15
  model : s.model.InRange

/-- The session `r` has everything that a manifest of `s` is to restore. -/
structure Session.RestoredIn (s r : Session) : Prop where
  zoomLevel : r.zoomLevel = s.zoomLevel
  zoomOffset : r.zoomOffset = s.zoomOffset
  taskList : r.taskList = s.taskList
  potentials : r.potentials = s.potentials
  tags : ∀ i, tagText (r.synapseDisk i).snapshotTag = tagText (s.synapseDisk i).snapshotTag
  model : r.model = s.model

/-- Nothing changes when each field is read from the word before its own: the zoom offset, the
task parameters and the potentials all have the value of the zoom level, the checksum clamps to
it, and each tag reads the same from four bytes earlier. -/
structure Session.ShiftStable (s : Session) (stack : SessionManifest) : Prop where
  zoomLevel : clampI32 (manifestChecksum (s.manifest stack).toMemory).toInt32 1 4 = s.zoomLevel
  zoomOffset : s.zoomOffset = s.zoomLevel
  taskList : ∀ t, s.taskList t = ⟨s.zoomLevel, s.zoomLevel, s.zoomLevel⟩
  potentials : ∀ i, s.potentials i = s.zoomLevel
  tags : ∀ i, (tagText ((s.manifest stack).tagWindow i)).take 15 =
    tagText (s.synapseDisk i).snapshotTag

lemma Session.restore_savedManifest (hs : s.Storable) (stack : SessionManifest) (r : Session) :
    r.restore (s.savedManifest stack).toMemory sizeofSessionManifest =
      { r with
        zoomLevel := clampI32 (manifestChecksum (s.manifest stack).toMemory).toInt32 1 4
        zoomOffset := clampI32 s.zoomLevel 0 15
        taskList := fun t =>
          if t = 0 then
            ⟨s.zoomOffset, (s.taskList 1).baseIntegration, (s.taskList 1).fireThreshold⟩
          else
            ⟨(s.taskList 0).baseIntegration, (s.taskList 0).fireThreshold,
              (s.taskList 0).targetPixel⟩
        potentials := fun i =>
          if i = 0 then (s.taskList 1).targetPixel else s.potentials (i - 1)
        synapseDisk := fun i =>
          { r.synapseDisk i with
            snapshotTag := copyText (r.synapseDisk i).snapshotTag
              ((s.manifest stack).tagWindow i) }
        model := s.model } := by
  simp only [Session.restore, SessionManifestV1.ofMemory_toMemory,
    SessionManifest.ofMemory_toMemory]
  apply Session.ext
  · rfl
  · rfl
  · rfl
  · funext t
    fin_cases t <;> rfl
  · rfl
  · rfl
  · exact modelManifestApply_capture hs.model r.model

lemma eq_of_shifted {f : Fin 16 → Int32} {v : Int32}
    (hf : (fun i => if i = 0 then v else f (i - 1)) = f) (i : Fin 16) : f i = v := by
  induction i using Fin.induction with
  | zero =>
    have h := congrFun hf 0
    rw [← h, if_pos rfl]
  | succ i ih =>
    have hsub : i.succ - 1 = i.castSucc := by
      apply Fin.ext
      simp [Fin.sub_def]
      omega
    have h := congrFun hf i.succ
    rw [← h, if_neg (Fin.succ_ne_zero i), hsub, ih]

lemma Session.restoredIn_iff_shiftStable (hs : s.Storable) (stack : SessionManifest) (r : Session) :
    s.RestoredIn (r.restore (s.savedManifest stack).toMemory sizeofSessionManifest) ↔
      s.ShiftStable stack := by
  have hclamp : clampI32 s.zoomLevel 0 15 = s.zoomLevel :=
    clampI32_of_mem (Int32.le_trans (by decide) hs.zoomLevel.1)
      (Int32.le_trans hs.zoomLevel.2 (by decide))
  rw [restore_savedManifest hs, hclamp]
  constructor
  · rintro ⟨hzl, hzo, htl, hpot, htag, -⟩
    have ht0 := congrFun htl 0
    have ht1 := congrFun htl 1
    simp only at hzo
    simp only [if_true, if_neg (show (1 : Fin 2) ≠ 0 by decide)] at ht0 ht1
    -- the words form a chain: each one equals the one before it, down to the zoom level
    have hb0 : (s.taskList 0).baseIntegration = s.zoomLevel := by
      rw [← ht0, hzo]
    have hb1 : (s.taskList 1).baseIntegration = s.zoomLevel := by
      rw [← ht1, hb0]
    have hf0 : (s.taskList 0).fireThreshold = s.zoomLevel := by
      rw [← ht0, hb1]
    have hf1 : (s.taskList 1).fireThreshold = s.zoomLevel := by
      rw [← ht1, hf0]
    have hp0 : (s.taskList 0).targetPixel = s.zoomLevel := by
      rw [← ht0, hf1]
    have hp1 : (s.taskList 1).targetPixel = s.zoomLevel := by
      rw [← ht1, hp0]
    refine ⟨hzl, hzo.symm, fun t => ?_, fun i => ?_, fun i => ?_⟩
    · fin_cases t
      · exact SessionTask.ext hb0 hf0 hp0
      · exact SessionTask.ext hb1 hf1 hp1
    · exact eq_of_shifted (hp1 ▸ hpot) i
    · rw [← htag i, tagText_copyText]
  · intro h
    refine ⟨h.zoomLevel, h.zoomOffset.symm, ?_, ?_, fun i => ?_, rfl⟩
    · funext t
      simp only [h.taskList, h.zoomOffset, ite_self]
    · funext i
      simp only [h.taskList, h.potentials, ite_self]
    · rw [tagText_copyText, h.tags]

/-- A load of a saved session returns true and restores the session exactly when the session does
not change under the shift of its fields by one word. -/
theorem storageManifest_roundTrip_iff {σ : Type} {vfs : FileStore σ} (hv : vfs.ReadsBack)
    {st st' : σ} {s r : Session} (hs : s.Storable) {path : CString} {stack : SessionManifest}
    (mf mfBak : Bytes 436) (hsave : (storageManifestSave vfs st s path stack).2 = true)
    (hst : vfs.vfsReadFile st' path =
      vfs.vfsReadFile (storageManifestSave vfs st s path stack).1 path) :
    ((storageManifestLoad vfs st' r path mf mfBak).2 = true ∧
        s.RestoredIn (storageManifestLoad vfs st' r path mf mfBak).1) ↔
      s.ShiftStable stack := by
  obtain ⟨hp, hread⟩ := storageManifestSave_readBack hv hsave
  rw [← hst] at hread
  rw [storageManifestLoad_of_valid hp (s.savedManifest_valid stack) hread,
    Session.restoredIn_iff_shiftStable hs]
  exact and_iff_right rfl

/-- Files kept in memory. -/
def memoryStore : FileStore (CString → List UInt8) where
  vfsWriteFile st path data := (fun p => if p = path then data else st p, data.length)
  vfsReadFile st path maxSize := ((st path).take maxSize, ((st path).take maxSize).length)

lemma memoryStore_readsBack : memoryStore.ReadsBack := by
  intro st path data maxSize _ hlen
  simp [memoryStore, List.take_of_length_le hlen, hlen]

lemma memoryStore_save {st : CString → List UInt8} {path : CString} {stack : SessionManifest}
    (hp : path ≠ []) :
    (storageManifestSave memoryStore st s path stack).2 = true := by
  have hbak : buildBackupPath path 80 ≠ [] := by simp [buildBackupPath, hp]
  simp [storageManifestSave, hp, hbak, memoryStore]

/-- A session without snapshots in which the zoom offset, the task parameters and the potentials
have the value `v`. -/
def uniformSession (tau zoomLevel v : Int32) : Session where
  tick := 0
  zoomLevel := zoomLevel
  zoomOffset := v
  taskList _ := ⟨v, v, v⟩
  potentials _ := v
  synapseDisk _ := ⟨0, Bytes.zero⟩
  model := { modelManagerInit with params := fun _ _ => ⟨tau, 10, 200, 10, 50, 2000⟩ }

def blankManifest : SessionManifest := SessionManifest.ofMemory Bytes.zero

lemma uniformSession_storable {tau zoomLevel v : Int32} (ht : 1 ≤ tau ∧ tau ≤ 8)
    (hz : 1 ≤ zoomLevel ∧ zoomLevel ≤ 4) (hv : 0 ≤ v ∧ v ≤ 15) :
    (uniformSession tau zoomLevel v).Storable := by
  have htag : (tagText Bytes.zero).length ≤ 15 := by decide
  refine ⟨hz, hv, fun _ => htag, Or.inl rfl, modelManagerInit_inRange.taskModel, fun t n => ?_⟩
  have hp := modelManagerInit_inRange.params t n
  exact ⟨ht, hp.refractoryTicks, hp.adaptationStep, hp.learningRate, hp.weightMin, hp.weightMax,
    hp.ordered⟩

/-- A session with equal values everywhere. -/
theorem storageManifest_roundTrip_uniform :
    (storageManifestLoad memoryStore
        (storageManifestSave memoryStore (fun _ => []) (uniformSession 2 1 1) [115] blankManifest).1
        (uniformSession 1 4 0) [115] Bytes.zero Bytes.zero).2 = true ∧
      (uniformSession 2 1 1).RestoredIn (storageManifestLoad memoryStore
        (storageManifestSave memoryStore (fun _ => []) (uniformSession 2 1 1) [115] blankManifest).1
        (uniformSession 1 4 0) [115] Bytes.zero Bytes.zero).1 := by
  refine (storageManifest_roundTrip_iff memoryStore_readsBack
    (uniformSession_storable (by decide) (by decide) (by decide)) Bytes.zero Bytes.zero
    (memoryStore_save (by decide)) rfl).mpr ⟨?_, rfl, fun _ => rfl, fun _ => rfl, ?_⟩
  · decide +kernel
  · decide +kernel

/-- The session with zoom level 1, zoom offset 0 and all else 0 is saved, and the load turns its
zoom offset into 1. -/
theorem storageManifest_shifts_zoomOffset :
    (uniformSession 1 1 0).Storable ∧
      (storageManifestSave memoryStore (fun _ => []) (uniformSession 1 1 0) [115]
        blankManifest).2 = true ∧
      ¬ (uniformSession 1 1 0).RestoredIn (storageManifestLoad memoryStore
        (storageManifestSave memoryStore (fun _ => []) (uniformSession 1 1 0) [115] blankManifest).1
        (uniformSession 1 1 0) [115] Bytes.zero Bytes.zero).1 := by
  have hs : (uniformSession 1 1 0).Storable :=
    uniformSession_storable (by decide) (by decide) (by decide)
  have hsave : (storageManifestSave memoryStore (fun _ => []) (uniformSession 1 1 0) [115]
    blankManifest).2 = true := memoryStore_save (by decide)
  refine ⟨hs, hsave, fun h => ?_⟩
  obtain ⟨hp, hread⟩ := storageManifestSave_readBack memoryStore_readsBack hsave
  rw [storageManifestLoad_of_valid hp (Session.savedManifest_valid _ _) hread,
    Session.restoredIn_iff_shiftStable hs] at h
  exact absurd h.zoomOffset (by decide)

end NeuroSpark
