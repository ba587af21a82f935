import NeuroSpark.Tfs.Data

/-!
# When writing one file leaves another alone

The data of slot `i` starts at sector `TFS_DATA_START + i` and `tfs_write` checks its position only
against the end of the whole data area. A write therefore reaches every file whose extent it
overlaps, and no other: `tfsWrite_isolated_iff`.
-/

namespace NeuroSpark

open Word

variable {s : Tfs}

/-! ### Runs of the file system -/

inductive TfsOp where
  | openFile (path : CString) (flags : UInt32)
  | read (h size : Nat)
  | write (h : Nat) (buf : List UInt8)
  | close (h : Nat)
  | lseek (h : Nat) (offset whence : Int)
  | ftruncate (h size : Nat)
  | delete (path : CString)
  | rename (oldPath newPath : CString)
  | truncate (path : CString) (size : Nat)

inductive TfsAnswer where
  | code (r : VfsResult)
  | data (r : Except VfsError (List UInt8))
  deriving DecidableEq

def tfsStep (s : Tfs) : TfsOp → Tfs × TfsAnswer
  | .openFile path flags => ((tfsOpen s path flags).1, .code (tfsOpen s path flags).2)
  | .read h size => ((tfsRead s h size).1, .data (tfsRead s h size).2)
  | .write h buf => ((tfsWrite s h buf).1, .code (tfsWrite s h buf).2)
  | .close h => ((tfsClose s h).1, .code (tfsClose s h).2)
  | .lseek h offset whence =>
    ((tfsLseek s h offset whence).1, .code (tfsLseek s h offset whence).2)
  | .ftruncate h size => ((tfsFtruncate s h size).1, .code (tfsFtruncate s h size).2)
  | .delete path => ((tfsDelete s path).1, .code (tfsDelete s path).2)
  | .rename oldPath newPath =>
    ((tfsRename s oldPath newPath).1, .code (tfsRename s oldPath newPath).2)
  | .truncate path size => ((tfsTruncate s path size).1, .code (tfsTruncate s path size).2)

/-- The file system at boot, over a disk with contents `f` that never fails. -/
def Tfs.boot (f : Nat → Sector) : Tfs where
  disk := Disk.boot (Device.ofSectors f)
  ataDiskAvailable := true
  rootDirectory := Bytes.zero
  handles := fun _ => ⟨false, 0, 0, 0, 0⟩

/-- A state reached from boot by some run. -/
def Tfs.Reachable (s : Tfs) : Prop := ∃ f ops, s = Machine.run tfsStep (Tfs.boot f) ops

/-- What holds in every state: the disk is in order and positions are 32-bit words. -/
structure Tfs.Sane (s : Tfs) : Prop where
  ready : s.disk.Ready
  pos : ∀ h, (s.handles h).pos < 4294967296

@[simp] lemma Tfs.setHandle_disk (s : Tfs) (h : Nat) (x : TfsHandle) :
    (s.setHandle h x).disk = s.disk := rfl

@[simp] lemma Tfs.setHandle_rootDirectory (s : Tfs) (h : Nat) (x : TfsHandle) :
    (s.setHandle h x).rootDirectory = s.rootDirectory := rfl

lemma Tfs.handles_setHandle_same (s : Tfs) (h : Nat) (x : TfsHandle) :
    (s.setHandle h x).handles h = x := Function.update_self ..

lemma Tfs.handles_setHandle_of_ne (s : Tfs) {h h' : Nat} (x : TfsHandle) (hne : h' ≠ h) :
    (s.setHandle h x).handles h' = s.handles h' := Function.update_of_ne hne ..

lemma Tfs.Sane.setHandle (hs : s.Sane) (h : Nat) {x : TfsHandle}
    (hx : x.pos < 4294967296) : (s.setHandle h x).Sane := by
  refine ⟨hs.ready, fun h' => ?_⟩
  by_cases hh : h' = h
  · subst hh; rwa [Tfs.handles_setHandle_same]
  · rw [Tfs.handles_setHandle_of_ne s x hh]; exact hs.pos h'

lemma Tfs.updateDirectory_spec (hs : s.disk.Ready) (d : TfsDirectory) :
    (s.updateDirectory d).disk.Ready ∧
      (s.updateDirectory d).disk.view = Function.update s.disk.view tfsDirLba d.resize := by
  obtain ⟨hg, hv⟩ := pageCacheWriteSector_spec hs tfsDirLba (d.resize : Sector)
  exact ⟨hg, hv⟩

lemma Tfs.loadDirectory_spec (hs : s.disk.Ready) :
    s.loadDirectory.disk.Ready ∧ s.loadDirectory.disk.view = s.disk.view ∧
      s.loadDirectory.rootDirectory = s.rootDirectory.overlay (s.disk.view tfsDirLba) := by
  obtain ⟨hg, hv, hd⟩ := diskReadSector_spec hs tfsDirLba (s.rootDirectory.resize : Sector)
  exact ⟨hg, hv, by rw [Tfs.loadDirectory, hd]⟩

lemma Tfs.Sane.updateDirectory (hs : s.Sane) (d : TfsDirectory) :
    (s.updateDirectory d).Sane := ⟨(Tfs.updateDirectory_spec hs.ready d).1, hs.pos⟩

lemma Tfs.Sane.loadDirectory (hs : s.Sane) : s.loadDirectory.Sane :=
  ⟨(Tfs.loadDirectory_spec hs.ready).1, hs.pos⟩

lemma tfsReadLoop_ready (lba₀ pos size fuel : Nat) {disk : Disk} (hd : disk.Ready) (sector : Sector)
    (acc : List UInt8) :
    (tfsReadLoop lba₀ pos size fuel disk sector acc).1.Ready := by
  induction fuel generalizing disk sector acc with
  | zero => exact hd
  | succ fuel ih =>
    rw [tfsReadLoop]
    split_ifs
    · exact ih (diskReadSector_spec hd _ _).1 _ _
    · exact hd

lemma tfsWriteLoop_ready (lba₀ pos : Nat) (src : List UInt8) (fuel : Nat) {disk : Disk}
    (hd : disk.Ready) (sector : Sector) (total : Nat) :
    (tfsWriteLoop lba₀ pos src fuel disk sector total).1.Ready := by
  induction fuel generalizing disk sector total with
  | zero => exact hd
  | succ fuel ih =>
    rw [tfsWriteLoop]
    dsimp only
    split_ifs
    · exact hd
    · exact ih (pageCacheWriteSector_spec (diskReadSector_spec hd _ _).1 _ _).1 _ _
    · exact hd

lemma tfsOpenEntry_sane (hs : s.Sane) (i : Fin 25) (flags : UInt32) :
    (tfsOpenEntry s i flags).1.Sane := by
  have hs' : (if flags &&& vfsOTrunc ≠ 0 then
      s.updateDirectory (s.rootDirectory.setSize i 0) else s).Sane := by
    split_ifs
    · exact hs.updateDirectory _
    · exact hs
  rw [tfsOpenEntry]
  split
  · exact hs'
  · exact hs'.setHandle _ (by simp)

lemma Tfs.Sane.setPos (hs : s.Sane) (h : Nat) (hd : TfsHandle) {p : Nat}
    (hp : p < 4294967296) : (s.setHandle h { hd with pos := p }).Sane :=
  hs.setHandle h hp

lemma toNat_i32_lt (n : Int) : (i32 n).toNat < 4294967296 := by
  have h := Int.bmod_lt (x := n) (m := 4294967296) (by decide)
  unfold i32
  omega

lemma tfsStep_sane (s : Tfs) (o : TfsOp) (hs : s.Sane) : (tfsStep s o).1.Sane := by
  cases o with
  | openFile path flags =>
    simp only [tfsStep, tfsOpen]
    split
    · exact hs
    split
    · exact hs
    split
    · exact tfsOpenEntry_sane hs.loadDirectory _ _
    split
    · exact hs.loadDirectory
    split
    · exact hs.loadDirectory
    · exact tfsOpenEntry_sane (hs.loadDirectory.updateDirectory _) _ _
  | read h size =>
    have hr : ∀ n, Tfs.Sane { s with disk := (tfsReadLoop
        (s.rootDirectory.lba (s.handles h).entryIdx) (s.handles h).pos n n s.disk Bytes.zero []).1 } :=
      fun n => ⟨tfsReadLoop_ready _ _ _ _ hs.ready _ _, hs.pos⟩
    simp only [tfsStep, tfsRead]
    split_ifs <;> first | exact hs | exact (hr _).setPos h _ (u32_lt _)
  | write h buf =>
    have hw : Tfs.Sane { s with disk := (tfsWriteLoop (s.rootDirectory.lba (s.handles h).entryIdx)
        (s.handles h).pos buf buf.length s.disk Bytes.zero 0).1 } :=
      ⟨tfsWriteLoop_ready _ _ _ _ hs.ready _ _, hs.pos⟩
    simp only [tfsStep, tfsWrite]
    split_ifs <;> first
      | exact hs
      | exact hw.setPos h _ (u32_lt _)
      | exact (hw.setPos h _ (u32_lt _)).updateDirectory _
  | close h =>
    simp only [tfsStep, tfsClose]
    split_ifs <;> first | exact hs | exact hs.setHandle h (hs.pos h)
  | lseek h offset whence =>
    simp only [tfsStep, tfsLseek]
    split_ifs <;> first | exact hs | exact hs.setPos h _ (toNat_i32_lt _)
  | ftruncate h size =>
    have hp : (if (s.handles h).pos > size then size else (s.handles h).pos) < 4294967296 := by
      have := hs.pos h
      split_ifs <;> omega
    simp only [tfsStep, tfsFtruncate]
    split
    · exact hs
    · exact (hs.setPos h _ hp).updateDirectory _
  | delete path =>
    simp only [tfsStep, tfsDelete]
    split
    · exact hs
    split
    · exact hs
    split
    · exact hs.loadDirectory
    · exact hs.loadDirectory.updateDirectory _
  | rename oldPath newPath =>
    simp only [tfsStep, tfsRename]
    split
    · exact hs
    split
    · split
      · exact hs.loadDirectory
      · split
        · split_ifs <;> first | exact hs.loadDirectory | exact hs.loadDirectory.updateDirectory _
        · exact hs.loadDirectory.updateDirectory _
    · exact hs
  | truncate path size =>
    simp only [tfsStep, tfsTruncate]
    split
    · exact hs
    split
    · exact hs
    split
    · exact hs.loadDirectory
    · exact hs.loadDirectory.updateDirectory _

lemma Tfs.sane_boot (f : Nat → Sector) : (Tfs.boot f).Sane :=
  ⟨Disk.ready_boot (Device.healthy_ofSectors f), fun _ => by simp [Tfs.boot]⟩

lemma Tfs.Reachable.sane (hs : s.Reachable) : s.Sane := by
  obtain ⟨f, ops, rfl⟩ := hs
  exact Machine.run_invariant' tfsStep_sane (Tfs.sane_boot f) ops

/-! ### One read, one write -/

/-- A read returns the bytes between the position and the end of the file; sector numbers wrap
around. -/
lemma tfsRead_bytes (hs : s.disk.Ready) {h n : Nat} (ho : s.IsOpen h) (hn : n ≠ 0)
    (hr : tfsReadable (s.handles h).flags) :
    (tfsRead s h n).1.disk.Ready ∧ (tfsRead s h n).1.disk.view = s.disk.view ∧
      (tfsRead s h n).2 = .ok ((List.range (min n
        (s.rootDirectory.size (s.handles h).entryIdx - (s.handles h).pos))).map fun k =>
          (s.disk.view (u32 (s.rootDirectory.lba (s.handles h).entryIdx +
            ((s.handles h).pos + k) / 512))).get (((s.handles h).pos + k) % 512)) := by
  rw [tfsRead]
  simp only [ho, hn, hr, not_true_eq_false, if_false]
  split_ifs with hp
  · have h0 : min n (s.rootDirectory.size (s.handles h).entryIdx - (s.handles h).pos) = 0 := by
      omega
    simp [h0, hs]
  · have hsz : s.rootDirectory.size (s.handles h).entryIdx < 4294967296 := Bytes.le32_lt _ _
    set size := min n (s.rootDirectory.size (s.handles h).entryIdx - (s.handles h).pos) with hsize
    have h0 : ([] : List UInt8).length ≤ size := Nat.zero_le _
    obtain ⟨h1, h2, h3⟩ := tfsReadLoop_bytes (s.rootDirectory.lba (s.handles h).entryIdx)
      (s.handles h).pos size (by omega) size hs Bytes.zero h0 (Nat.sub_le _ _)
    refine ⟨h1, h2, ?_⟩
    simpa using h3

lemma tfsRead_spec (hs : s.disk.Ready) {h n : Nat} (ho : s.IsOpen h) (hn : n ≠ 0)
    (hr : tfsReadable (s.handles h).flags)
    (hl : s.rootDirectory.lba (s.handles h).entryIdx < 2147483648) :
    (tfsRead s h n).1.disk.Ready ∧ (tfsRead s h n).1.disk.view = s.disk.view ∧
      (tfsRead s h n).2 = .ok ((List.range (min n
        (s.rootDirectory.size (s.handles h).entryIdx - (s.handles h).pos))).map fun k =>
          flatByte s.disk.view (512 * s.rootDirectory.lba (s.handles h).entryIdx +
            (s.handles h).pos + k)) := by
  obtain ⟨h1, h2, h3⟩ := tfsRead_bytes hs ho hn hr
  refine ⟨h1, h2, h3.trans ?_⟩
  congr 1
  apply List.map_congr_left
  intro k hk
  rw [List.mem_range] at hk
  have hsz : s.rootDirectory.size (s.handles h).entryIdx < 4294967296 := Bytes.le32_lt _ _
  have hquot : (512 * s.rootDirectory.lba (s.handles h).entryIdx + (s.handles h).pos + k) / 512 =
      s.rootDirectory.lba (s.handles h).entryIdx + ((s.handles h).pos + k) / 512 := by omega
  have hrem : (512 * s.rootDirectory.lba (s.handles h).entryIdx + (s.handles h).pos + k) % 512 =
      ((s.handles h).pos + k) % 512 := by omega
  rw [flatByte, hquot, hrem, u32_of_lt (by omega)]

lemma flatByte_updateDirectory (hs : s.disk.Ready) (d : TfsDirectory) {a : Nat}
    (ha : a / 512 ≠ tfsDirLba) :
    flatByte (s.updateDirectory d).disk.view a = flatByte s.disk.view a := by
  rw [(Tfs.updateDirectory_spec hs d).2, flatByte, Function.update_of_ne ha]
  rfl

/-- A write replaces a range of the flat array by the buffer, may grow its own file, and moves its
own position. -/
lemma tfsWrite_spec (hs : s.Sane) {h : Nat} {buf : List UInt8} (ho : s.IsOpen h)
    (hb : buf.length ≠ 0) (hw : tfsWritable (s.handles h).flags)
    (hl : s.rootDirectory.lba (s.handles h).entryIdx < 2147483648) :
    (tfsWrite s h buf).1.disk.Ready ∧
      (∀ a, a / 512 ≠ tfsDirLba → flatByte (tfsWrite s h buf).1.disk.view a =
        if 512 * s.rootDirectory.lba (s.handles h).entryIdx + (s.handles h).pos ≤ a ∧
            a < 512 * s.rootDirectory.lba (s.handles h).entryIdx + (s.handles h).pos +
              tfsWritten (512 * s.rootDirectory.lba (s.handles h).entryIdx + (s.handles h).pos)
                buf.length then
          buf.getD (a - (512 * s.rootDirectory.lba (s.handles h).entryIdx + (s.handles h).pos)) 0
        else flatByte s.disk.view a) ∧
      (∀ j, j ≠ (s.handles h).entryIdx →
        (tfsWrite s h buf).1.rootDirectory.words j = s.rootDirectory.words j) ∧
      (∀ h', h' ≠ h → (tfsWrite s h buf).1.handles h' = s.handles h') ∧
      ∃ w ≤ buf.length, (tfsWrite s h buf).1.handles h =
          { s.handles h with pos := u32 ((s.handles h).pos + w) } ∧
        ((tfsWrite s h buf).1.rootDirectory = s.rootDirectory ∧
            (s.rootDirectory.lba (s.handles h).entryIdx > tfsDirLba →
              (tfsWrite s h buf).1.disk.view tfsDirLba = s.disk.view tfsDirLba) ∨
          (tfsWrite s h buf).1.rootDirectory = s.rootDirectory.setSize (s.handles h).entryIdx
              (u32 ((s.handles h).pos + w)) ∧
            (tfsWrite s h buf).1.disk.view tfsDirLba =
              (tfsWrite s h buf).1.rootDirectory.resize) := by
  set A := (s.handles h).entryIdx
  obtain ⟨h1, h2, h3⟩ := tfsWriteLoop_spec (s.rootDirectory.lba A) (s.handles h).pos (hs.pos h) hl
    buf buf.length hs.ready Bytes.zero (Nat.zero_le _) (Nat.sub_le _ _)
  set r := tfsWriteLoop (s.rootDirectory.lba A) (s.handles h).pos buf buf.length s.disk Bytes.zero 0
  rw [Nat.add_zero] at h3
  rw [tfsWrite]
  simp only [ho, hb, hw, not_true_eq_false, if_false]
  split_ifs with hgrow
  · refine ⟨(Tfs.updateDirectory_spec h1 _).1, fun a ha => ?_, fun j hj => ?_, fun h' hh => ?_,
      r.2, h2 ▸ min_le_left _ _, Tfs.handles_setHandle_same _ _ _, Or.inr ⟨rfl, ?_⟩⟩
    · rw [flatByte_updateDirectory h1 _ ha, Tfs.setHandle_disk]
      exact h3 a
    · exact (TfsDirectory.words_setSize _ _ _ _).trans (if_neg hj)
    · exact Tfs.handles_setHandle_of_ne _ _ hh
    · exact (congrFun (Tfs.updateDirectory_spec h1 _).2 _).trans (Function.update_self ..)
  · refine ⟨h1, fun a _ => ?_, fun j _ => rfl, fun h' hh => Tfs.handles_setHandle_of_ne _ _ hh,
      r.2, h2 ▸ min_le_left _ _, Tfs.handles_setHandle_same _ _ _, Or.inl ⟨rfl, fun hdir => ?_⟩⟩
    · exact h3 a
    · rw [Tfs.setHandle_disk]
      apply Bytes.ext_get
      intro k hk
      have hc := h3 (512 * tfsDirLba + k)
      rw [if_neg (by omega)] at hc
      have hq : (512 * tfsDirLba + k) / 512 = tfsDirLba := by omega
      have hm : (512 * tfsDirLba + k) % 512 = k := by omega
      simpa only [flatByte, hq, hm] using hc

/-! ### Isolation -/

/-- Slot `i` holds a file as `tfs_open` creates it. -/
def Tfs.HasFile (s : Tfs) (i : Fin 25) : Prop :=
  s.rootDirectory.flags i = 1 ∧ s.rootDirectory.lba i = tfsDataStart + i

/-- No byte that a write of `n` bytes at position `pos` of slot `A` stores lies in the first
`size` bytes of slot `B`. -/
def TfsApart (A B : Fin 25) (pos n size : Nat) : Prop :=
  ∀ k < tfsWritten (512 * (tfsDataStart + A) + pos) n,
    ¬ (512 * (B : Nat) ≤ 512 * A + pos + k ∧ 512 * (A : Nat) + pos + k < 512 * B + size)

lemma UInt8.add_one_ne (x : UInt8) : x + 1 ≠ x := by
  intro h
  have h' := congrArg UInt8.toNat h
  simp at h'
  omega

lemma tfsRead_file (hs : s.disk.Ready) {B : Fin 25} (hB : s.HasFile B) (hb : Nat)
    (hob : s.IsOpen hb) (hhb : (s.handles hb).entryIdx = B) (hrb : tfsReadable (s.handles hb).flags)
    (hpb : (s.handles hb).pos = 0) (h0 : s.rootDirectory.size B ≠ 0) :
    (tfsRead s hb (s.rootDirectory.size B)).2 = .ok ((List.range (s.rootDirectory.size B)).map
      fun k => flatByte s.disk.view (512 * (tfsDataStart + B) + k)) := by
  have hl : s.rootDirectory.lba (s.handles hb).entryIdx < 2147483648 := by
    rw [hhb, hB.2]
    unfold tfsDataStart
    omega
  rw [(tfsRead_spec hs hob h0 hrb hl).2.2]
  simp only [hhb, hpb, hB.2, Nat.sub_zero, Nat.min_self, Nat.add_zero]

lemma tfsRead_tfsWrite_eq_iff (hs : s.Sane) {A B : Fin 25} (hAB : A ≠ B) (hA : s.HasFile A)
    (hB : s.HasFile B) {h hb : Nat} (ho : s.IsOpen h) (hh : (s.handles h).entryIdx = A)
    (hob : s.IsOpen hb) (hhb : (s.handles hb).entryIdx = B) (hrb : tfsReadable (s.handles hb).flags)
    (hpb : (s.handles hb).pos = 0) (hw : tfsWritable (s.handles h).flags)
    (h0 : s.rootDirectory.size B ≠ 0) {buf : List UInt8} (hbuf : buf.length ≠ 0) :
    (tfsRead (tfsWrite s h buf).1 hb (s.rootDirectory.size B)).2 =
        (tfsRead s hb (s.rootDirectory.size B)).2 ↔
      ∀ k < s.rootDirectory.size B,
        flatByte (tfsWrite s h buf).1.disk.view (512 * (tfsDataStart + B) + k) =
          flatByte s.disk.view (512 * (tfsDataStart + B) + k) := by
  have hl : s.rootDirectory.lba (s.handles h).entryIdx < 2147483648 := by
    rw [hh, hA.2]
    unfold tfsDataStart
    omega
  obtain ⟨hready, _, hwords, hhandles, _⟩ := tfsWrite_spec hs ho hbuf hw hl
  have hne : hb ≠ h := by
    rintro rfl
    exact hAB (hh.symm.trans hhb)
  have hwB := hwords B (by rw [hh]; exact hAB.symm)
  simp only [TfsDirectory.words, Prod.mk.injEq] at hwB
  have hhb' := hhandles hb hne
  have hB' : (tfsWrite s h buf).1.HasFile B := ⟨hwB.2.2.trans hB.1, hwB.1.trans hB.2⟩
  have hread := tfsRead_file hready hB' hb ⟨hob.1, by rw [hhb']; exact hob.2⟩
    (by rw [hhb']; exact hhb) (by rw [hhb']; exact hrb) (by rw [hhb']; exact hpb)
    (by rw [hwB.2.1]; exact h0)
  rw [hwB.2.1] at hread
  rw [hread, tfsRead_file hs.ready hB hb hob hhb hrb hpb h0, Except.ok.injEq, List.map_inj_left]
  simp only [List.mem_range]

/-- Writing `n` bytes through a handle on the file in slot `A` leaves what is read from the file in
slot `B` the same, whatever the bytes, exactly if the handle may not write or the range it writes
is apart from the extent of `B`. -/
theorem tfsWrite_isolated_iff {s : Tfs} (hs : s.Reachable) {A B : Fin 25} (hAB : A ≠ B)
    (hA : s.HasFile A) (hB : s.HasFile B) {h hb : Nat} (ho : s.IsOpen h)
    (hh : (s.handles h).entryIdx = A) (hob : s.IsOpen hb) (hhb : (s.handles hb).entryIdx = B)
    (hrb : tfsReadable (s.handles hb).flags) (hpb : (s.handles hb).pos = 0) (n : Nat) :
    (∀ buf : List UInt8, buf.length = n →
      (tfsRead (tfsWrite s h buf).1 hb (s.rootDirectory.size B)).2 =
        (tfsRead s hb (s.rootDirectory.size B)).2) ↔
    (tfsWritable (s.handles h).flags →
      TfsApart A B (s.handles h).pos n (s.rootDirectory.size B)) := by
  by_cases hw : tfsWritable (s.handles h).flags
  swap
  · -- the write is refused and changes nothing
    simp only [hw, false_imp_iff, iff_true]
    intro buf _
    have hsame : (tfsWrite s h buf).1 = s := by
      rw [tfsWrite]
      simp only [ho, hw, not_true_eq_false, not_false_eq_true, if_true, if_false]
      split_ifs <;> rfl
    rw [hsame]
  simp only [hw, true_imp_iff]
  by_cases hn : n = 0
  · subst hn
    refine iff_of_true (fun buf hbuf => ?_) fun k hk => ?_
    · simp [tfsWrite, ho, hbuf]
    · simp [tfsWritten] at hk
  have hl : s.rootDirectory.lba (s.handles h).entryIdx < 2147483648 := by
    rw [hh, hA.2]
    unfold tfsDataStart
    omega
  have hne : hb ≠ h := by
    rintro rfl
    exact hAB (hh.symm.trans hhb)
  by_cases h0 : s.rootDirectory.size B = 0
  · refine iff_of_true (fun buf hbuf => ?_) fun k _ hk => by omega
    have hhb' := (tfsWrite_spec hs.sane ho (hbuf.trans_ne hn) hw hl).2.2.2.1 hb hne
    have hob' : (tfsWrite s h buf).1.IsOpen hb := ⟨hob.1, by rw [hhb']; exact hob.2⟩
    simp [tfsRead, h0, hob, hob']
  have hcell : ∀ buf : List UInt8, buf.length = n → ∀ k,
      flatByte (tfsWrite s h buf).1.disk.view (512 * (tfsDataStart + B) + k) =
        if 512 * A + (s.handles h).pos ≤ 512 * B + k ∧
            512 * B + k < 512 * A + (s.handles h).pos +
              tfsWritten (512 * (tfsDataStart + A) + (s.handles h).pos) n then
          buf.getD (512 * B + k - (512 * A + (s.handles h).pos)) 0
        else flatByte s.disk.view (512 * (tfsDataStart + B) + k) := by
    intro buf hbuf k
    have hc := (tfsWrite_spec hs.sane ho (hbuf.trans_ne hn) hw hl).2.1 (512 * (tfsDataStart + B) + k)
      (by unfold tfsDataStart tfsDirLba; omega)
    rw [hc, hh, hA.2, hbuf]
    congr 1
    · simp only [tfsDataStart, eq_iff_iff]
      constructor <;> intro hr <;> constructor <;> omega
    · congr 1
      simp only [tfsDataStart]
      omega
  have hiff : ∀ buf : List UInt8, buf.length = n →
      ((tfsRead (tfsWrite s h buf).1 hb (s.rootDirectory.size B)).2 =
        (tfsRead s hb (s.rootDirectory.size B)).2 ↔ _) := fun buf hbuf =>
    tfsRead_tfsWrite_eq_iff hs.sane hAB hA hB ho hh hob hhb hrb hpb hw h0 (hbuf.trans_ne hn)
  constructor
  · intro hall k hk hmem
    -- a buffer that changes every byte it lands on shows the overlap
    set old := fun i => flatByte s.disk.view (512 * (tfsDataStart + A) + (s.handles h).pos + i)
    set buf := (List.range n).map fun i => old i + 1 with hbufdef
    have hlen : buf.length = n := by simp [hbufdef]
    have hkn : k < n := lt_of_lt_of_le hk (min_le_left _ _)
    obtain ⟨j, hj⟩ : ∃ j, 512 * (A : Nat) + (s.handles h).pos + k = 512 * B + j :=
      ⟨_, (Nat.add_sub_cancel' hmem.1).symm⟩
    have hsame := (hiff buf hlen).mp (hall buf hlen) j (by omega)
    rw [hcell buf hlen j, if_pos (by omega)] at hsame
    have hidx : 512 * (B : Nat) + j - (512 * A + (s.handles h).pos) = k := by omega
    have haddr : 512 * (tfsDataStart + B) + j =
        512 * (tfsDataStart + A) + (s.handles h).pos + k := by omega
    have hget : buf.getD k 0 = old k + 1 := by
      simp [hbufdef, List.getD_eq_getElem?_getD, hkn]
    rw [hidx, hget, haddr] at hsame
    exact UInt8.add_one_ne _ hsame
  · intro hap buf hbuf
    rw [hiff buf hbuf]
    intro k hk
    rw [hcell buf hbuf k, if_neg]
    rintro ⟨hlo, hhi⟩
    obtain ⟨j, hj⟩ : ∃ j, 512 * (B : Nat) + k = 512 * A + (s.handles h).pos + j :=
      ⟨_, (Nat.add_sub_cancel' hlo).symm⟩
    exact hap j (by omega) ⟨by omega, by omega⟩

/-- Two files `a` and `b` on a blank disk: `a` open as handle 0 for both, `b` holding one byte `5`
and open for reading as handle 2; the position of handle 0 is `pos`. -/
def tfsTwoFiles (pos : Nat) : Tfs :=
  Machine.run tfsStep (Tfs.boot fun _ => Bytes.zero)
    [.openFile [47, 97] 7, .openFile [47, 98] 7, .write 1 [5], .openFile [47, 98] 1,
      .lseek 0 pos vfsSeekSet]

/-- The first sector of one of two files is written. -/
theorem tfsWrite_isolated_first_sector :
    (tfsTwoFiles 0).Reachable ∧ ∀ buf : List UInt8, buf.length = 512 →
      (tfsRead (tfsWrite (tfsTwoFiles 0) 0 buf).1 2 ((tfsTwoFiles 0).rootDirectory.size 1)).2 =
        (tfsRead (tfsTwoFiles 0) 2 ((tfsTwoFiles 0).rootDirectory.size 1)).2 := by
  have hr : (tfsTwoFiles 0).Reachable := ⟨_, _, rfl⟩
  refine ⟨hr, (tfsWrite_isolated_iff hr (A := 0) (B := 1) (h := 0) (by decide)
    (by unfold Tfs.HasFile; decide) (by unfold Tfs.HasFile; decide)
    (by decide) (by decide) (by decide) (by decide)
    (by decide) (by decide) 512).mpr fun _ => ?_⟩
  have hsize : (tfsTwoFiles 0).rootDirectory.size 1 = 1 := by decide
  have hpos : ((tfsTwoFiles 0).handles 0).pos = 0 := by decide
  rw [hsize, hpos]
  intro k hk
  have hk' : k < 512 := lt_of_lt_of_le hk (min_le_left _ _)
  simp
  omega

/-- Position 512 of the file in slot 0 is the first byte of the file in slot 1. -/
theorem tfsWrite_reaches_next_file :
    (tfsTwoFiles 512).Reachable ∧ (tfsTwoFiles 512).HasFile 0 ∧ (tfsTwoFiles 512).HasFile 1 ∧
      ((tfsTwoFiles 512).handles 0).entryIdx = 0 ∧ ((tfsTwoFiles 512).handles 2).entryIdx = 1 ∧
      (tfsRead (tfsTwoFiles 512) 2 ((tfsTwoFiles 512).rootDirectory.size 1)).2 = .ok [5] ∧
      (tfsRead (tfsWrite (tfsTwoFiles 512) 0 [9]).1 2
        ((tfsTwoFiles 512).rootDirectory.size 1)).2 = .ok [9] := by
  refine ⟨⟨_, _, rfl⟩, ?_, ?_, ?_, ?_, ?_, ?_⟩
  · unfold Tfs.HasFile; decide
  · unfold Tfs.HasFile; decide
  all_goals decide

end NeuroSpark
