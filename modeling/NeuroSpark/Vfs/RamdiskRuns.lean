import NeuroSpark.Vfs.RamdiskView

/-!
# Sequences of calls on the RAM disk

Without `VFS_O_TRUNC` and truncations no handle ever passes the end of its file, and every sequence
of calls from `vfs_init` on is one on independent byte files. With them it is, as long as no call
shows bytes that it has not written. Two RAM disks that differ only in such bytes then give the same
answers.
-/

namespace NeuroSpark

open Function (update update_self update_of_ne)
open Word

/-- A call that makes no file shorter. -/
def RamdiskOp.Plain : RamdiskOp → Prop
  | .openFile _ flags => flags &&& vfsOTrunc = 0
  | .truncate _ _ | .ftruncate _ _ => False
  | _ => True

instance (op : RamdiskOp) : Decidable op.Plain := by
  cases op
  case openFile path flags => exact inferInstanceAs (Decidable (flags &&& vfsOTrunc = 0))
  case truncate | ftruncate => exact inferInstanceAs (Decidable False)
  all_goals exact inferInstanceAs (Decidable True)

namespace Ramdisk

variable {s s' : Ramdisk} {i : Fin 64} {f : RamdiskFile} {op : RamdiskOp}

/-! ### Handles stay in their files -/

lemma Within.setHandle (hw : s.Within) {h : Nat} {x : RamdiskHandle}
    (hx : x.used = true → x.pos ≤ (s.files x.entryIdx).size) : (s.setHandle h x).Within := by
  intro k hk
  by_cases hkh : k = h
  · subst hkh
    simp only [IsOpen, Ramdisk.setHandle, update_self] at hk ⊢
    exact hx hk.2
  · simp only [IsOpen, Ramdisk.setHandle, update_of_ne hkh] at hk ⊢
    exact hw k hk

lemma Within.of_files (hw : s.Within) (hfiles : s'.files = update s.files i f)
    (hhandles : s'.handles = s.handles)
    (hsize : (s.files i).size ≤ f.size ∨ ∀ h, s.IsOpen h → (s.handles h).entryIdx ≠ i) :
    s'.Within := by
  intro h ho
  rw [IsOpen, hhandles] at ho
  rw [hhandles, hfiles]
  by_cases hi : (s.handles h).entryIdx = i
  · rw [hi, update_self]
    have hle := hw h ho
    rw [hi] at hle
    exact hle.trans (hsize.resolve_right fun hne => hne h ho hi)
  · rw [update_of_ne hi]
    exact hw h ho

lemma openEntry_within (hw : s.Within) (flags : UInt32) :
    (ramdiskOpenEntry s i flags).1.Within := by
  unfold ramdiskOpenEntry
  cases ramdiskAllocHandle s with
  | none => exact hw
  | some h => exact hw.setHandle fun _ => Nat.zero_le _

lemma open_within (hs : s.Consistent) (hw : s.Within) {path : CString} {flags : UInt32}
    (hflags : flags &&& vfsOTrunc = 0) : (ramdiskOpen s path flags).1.Within := by
  unfold ramdiskOpen
  cases ramdiskExtractName path with
  | none => exact hw
  | some nm =>
    dsimp only
    cases ramdiskFindEntry s nm with
    | none =>
      dsimp only
      split_ifs
      · exact hw
      · cases halloc : ramdiskAllocEntry s with
        | none => exact hw
        | some i =>
          have hfree : (s.files i).used = false := by
            simpa using List.find?_some halloc
          have hne : ∀ h, s.IsOpen h → (s.handles h).entryIdx ≠ i := by
            intro h ho hi
            have hu := hs.entry_used h ho
            rw [hi, hfree] at hu
            cases hu
          apply openEntry_within
          exact hw.of_files (i := i) rfl rfl (Or.inr hne)
    | some i =>
      dsimp only
      rw [if_neg (not_not.2 hflags)]
      exact openEntry_within hw flags

lemma read_within (hw : s.Within) (h size : Nat) : (ramdiskRead s h size).1.Within := by
  unfold ramdiskRead
  split_ifs with ho hr
  · by_cases hend : (s.files (s.handles h).entryIdx).size ≤ (s.handles h).pos
    · simp only [hend, if_true]
      exact hw
    · simp only [hend, if_false]
      refine hw.setHandle fun _ => ?_
      simp only
      omega
  · exact hw
  · exact hw

lemma write_within (hw : s.Within) (h : Nat) (buf : List UInt8) :
    (ramdiskWrite s h buf).1.Within := by
  unfold ramdiskWrite
  split_ifs with ho hr
  · by_cases hcap : ramdiskFileCapacity ≤ (s.handles h).pos
    · simp only [hcap, if_true]
      exact hw
    · simp only [hcap, if_false]
      generalize min buf.length (ramdiskFileCapacity - (s.handles h).pos) = size
      have hgrows : ∀ a b : Nat, a ≤ (if b > a then b else a) ∧ b ≤ (if b > a then b else a) := by
        intro a b
        split_ifs <;> omega
      have htouch : (s.touch (s.handles h).entryIdx
        { s.files (s.handles h).entryIdx with
          data := (s.files (s.handles h).entryIdx).data.patch (s.handles h).pos (buf.take size)
          size := if (s.handles h).pos + size > (s.files (s.handles h).entryIdx).size then
              (s.handles h).pos + size
            else (s.files (s.handles h).entryIdx).size }).Within :=
        hw.of_files rfl rfl (Or.inl (hgrows _ _).1)
      refine htouch.setHandle (h := h)
        (x := { s.handles h with pos := (s.handles h).pos + size }) fun _ => ?_
      simp only [touch, setFile, update_self]
      exact (hgrows _ _).2
  · exact hw
  · exact hw

lemma lseek_within (hs : s.Consistent) (hw : s.Within) (h : Nat) (offset whence : Int) :
    (ramdiskLseek s h offset whence).1.Within := by
  unfold ramdiskLseek
  by_cases ho : s.IsOpen h
  · rw [if_neg (not_not.2 ho)]
    by_cases hwhence : whence ≠ vfsSeekSet ∧ whence ≠ vfsSeekCur ∧ whence ≠ vfsSeekEnd
    · rw [if_pos hwhence]
      exact hw
    · rw [if_neg hwhence]
      have hsize := hs.size_le (s.handles h).entryIdx
      have hi32 : i32 ((s.files (s.handles h).entryIdx).size : Int) =
          (s.files (s.handles h).entryIdx).size := i32_of_range (by omega) (by omega)
      refine hw.setHandle fun _ => ?_
      simp only [hi32, ofInt32]
      generalize (if whence = vfsSeekSet then i32 offset
        else if whence = vfsSeekCur then i32 (i32 (s.handles h).pos + offset)
        else i32 ((s.files (s.handles h).entryIdx).size + offset)) = target
      split_ifs <;> omega
  · rw [if_pos ho]
    exact hw

lemma delete_within (hw : s.Within) (path : CString) : (ramdiskDelete s path).1.Within := by
  unfold ramdiskDelete
  cases ramdiskExtractName path with
  | none => exact hw
  | some nm =>
    dsimp only
    cases ramdiskFindEntry s nm with
    | none => exact hw
    | some i =>
      dsimp only
      split_ifs with hbusy
      · exact hw
      · refine hw.of_files (i := i) rfl rfl (Or.inr fun h ho hi => hbusy ?_)
        exact ⟨h, List.mem_range.2 ho.1, ho.2, hi⟩

lemma rename_within (hw : s.Within) (oldPath newPath : CString) :
    (ramdiskRename s oldPath newPath).1.Within := by
  unfold ramdiskRename
  cases ramdiskExtractName oldPath with
  | none => exact hw
  | some old =>
    cases ramdiskExtractName newPath with
    | none => exact hw
    | some new =>
      dsimp only
      cases ramdiskFindEntry s old with
      | none => exact hw
      | some i =>
        have hrenamed : (s.touch i { s.files i with name := new }).Within :=
          hw.of_files rfl rfl (Or.inl le_rfl)
        cases ramdiskFindEntry s new with
        | none => exact hrenamed
        | some j =>
          dsimp only
          split_ifs
          · exact hw
          · exact hrenamed

lemma step_within (hs : s.Consistent) (hw : s.Within) (hp : op.Plain) :
    (ramdiskStep s op).1.Within := by
  cases op with
  | openFile path flags => exact open_within hs hw hp
  | read h size => exact read_within hw h size
  | write h buf => exact write_within hw h buf
  | close h =>
    simp only [ramdiskStep, Prod.map_fst, id_eq, ramdiskClose]
    split_ifs
    · exact hw.setHandle fun hu => by cases hu
    · exact hw
  | lseek h offset whence => exact lseek_within hs hw h offset whence
  | delete path => exact delete_within hw path
  | rename oldPath newPath => exact rename_within hw oldPath newPath
  | truncate path size | ftruncate h size => exact absurd hp id

lemma Within.covers (hw : s.Within) (hp : op.Plain) : s.Covers op := by
  cases op with
  | write h buf =>
    intro ho _ _
    exact hw h ho
  | truncate path size | ftruncate h size => exact absurd hp id
  | _ => exact trivial

lemma runs_covers {ops : List RamdiskOp} (hs : s.Consistent) (hw : s.Within)
    (hp : ∀ op ∈ ops, op.Plain) : Machine.Runs Covers ramdiskStep s ops := by
  induction ops generalizing s with
  | nil => trivial
  | cons op ops ih =>
    have hop := hp op (List.mem_cons_self ..)
    refine ⟨hw.covers hop, ih (step_consistent hs op) (step_within hs hw hop) ?_⟩
    intro op' hop'
    exact hp op' (List.mem_cons_of_mem _ hop')

lemma init_view (s : Ramdisk) : s.init.view = ByteFiles.empty := by
  have hcontents : s.init.contents = fun _ => none := by
    funext nm
    apply contents_eq_none
    apply List.find?_eq_none.2
    simp [init]
  have hopen : s.init.openFile = fun _ => none := by
    funext h
    exact openFile_of_not fun ho => by cases ho.2
  rw [view, hcontents, hopen]
  rfl

lemma run_consistent (s : Ramdisk) (ops : List RamdiskOp) :
    (Machine.run ramdiskStep s.init ops).Consistent :=
  Machine.run_invariant' (I := Consistent) (fun _ op hs => step_consistent hs op)
    s.init_consistent ops

end Ramdisk

/-- From `vfs_init` on, over any sequence of calls that makes no file shorter, the RAM disk answers
as independent byte files do: names are distinct, handles are on files and inside the capacity, and
a call changes no file but those it is about. -/
theorem ramdisk_byteFiles (s₀ : Ramdisk) {ops : List RamdiskOp} (hp : ∀ op ∈ ops, op.Plain) :
    let s := Machine.run ramdiskStep s₀.init ops
    DistinctNames s.files ∧
      (∀ h, s.IsOpen h → (s.files (s.handles h).entryIdx).used = true) ∧
      (∀ i, (s.files i).size ≤ 8192) ∧ (∀ h, s.IsOpen h → (s.handles h).pos ≤ 8192) ∧
      Machine.outputs ramdiskStep s₀.init ops =
        Machine.outputs ByteFiles.step ByteFiles.empty ops ∧
      s.view = Machine.run ByteFiles.step ByteFiles.empty ops ∧
      ∀ op, op.Plain → ∀ nm, nm ∉ s.view.concerns op →
        (ramdiskStep s op).1.contents nm = s.contents nm := by
  intro s
  have hinit := s₀.init_consistent
  have hwithin : s₀.init.Within := fun h ho => by cases ho.2
  have hruns := Ramdisk.runs_covers hinit hwithin hp
  have hs : s.Consistent := s₀.run_consistent ops
  have hw : s.Consistent ∧ s.Within := by
    have hplain : Machine.Runs (fun _ op => op.Plain) ramdiskStep s₀.init ops :=
      Machine.Runs.of_forall_mem hp
    refine Machine.run_invariant (I := fun s : Ramdisk => s.Consistent ∧ s.Within) ?_
      ⟨hinit, hwithin⟩ hplain
    rintro s op ⟨hs, hw⟩ hop
    exact ⟨Ramdisk.step_consistent hs op, Ramdisk.step_within hs hw hop⟩
  refine ⟨hs.names, hs.entry_used, hs.size_le, hs.pos_le, ?_, ?_, ?_⟩
  · rw [Ramdisk.refines_byteFiles.outputs_eq hinit hruns, s₀.init_view]
  · rw [Ramdisk.refines_byteFiles.run_view hinit hruns, s₀.init_view]
  · intro op hop nm hnm
    have hview := Ramdisk.refines_byteFiles.state s op hs (hw.2.covers hop)
    have hsame := s.view.step_contents op hnm
    rw [← hview] at hsame
    exact hsame

/-- A RAM disk that nothing was stored on. -/
def Ramdisk.blank : Ramdisk :=
  ⟨fun _ => ⟨false, [], 0, 0, 0, Bytes.zero⟩, fun _ => RamdiskHandle.closed, 0, 0⟩

/-- Two bytes are written to a new file and read back. -/
def writeAndRead : List RamdiskOp :=
  [.openFile [97] (vfsORdwr ||| vfsOCreat), .write 0 [1, 2], .lseek 0 0 vfsSeekSet, .read 0 5]

/-- A file is written and read. -/
theorem ramdisk_byteFiles_writeAndRead :
    Machine.outputs ramdiskStep Ramdisk.blank.init writeAndRead =
      Machine.outputs ByteFiles.step ByteFiles.empty writeAndRead :=
  (ramdisk_byteFiles Ramdisk.blank (by decide : ∀ op ∈ writeAndRead, op.Plain)).2.2.2.2.1

/-! ### What a slot held before -/

/-- The two differ in bytes behind the ends of files and in unused slots only. -/
structure Ramdisk.Alike (s s' : Ramdisk) : Prop where
  handles : s'.handles = s.handles
  nextInode : s'.nextInode = s.nextInode
  mtimeTick : s'.mtimeTick = s.mtimeTick
  files : ∀ i, { s'.files i with data := (s.files i).data } = s.files i
  data : ∀ i, (s.files i).used = true → ∀ k, k < (s.files i).size →
    (s'.files i).data.get k = (s.files i).data.get k

lemma Ramdisk.Alike.view_eq {s s' : Ramdisk} (h : s.Alike s') : s'.view = s.view := by
  have hused : ∀ i, (s'.files i).used = (s.files i).used :=
    fun i => (congrArg RamdiskFile.used (h.files i) :)
  have hname : ∀ i, (s'.files i).name = (s.files i).name :=
    fun i => (congrArg RamdiskFile.name (h.files i) :)
  have hsize : ∀ i, (s'.files i).size = (s.files i).size :=
    fun i => (congrArg RamdiskFile.size (h.files i) :)
  have hcontents : s'.contents = s.contents := by
    funext nm
    have hfind : ramdiskFindEntry s' nm = ramdiskFindEntry s nm := by
      simp only [ramdiskFindEntry, hused, hname]
    rw [contents, contents, hfind]
    cases hi : ramdiskFindEntry s nm with
    | none => rfl
    | some i =>
      have hbytes : (s'.files i).bytes = (s.files i).bytes := by
        rw [RamdiskFile.bytes, RamdiskFile.bytes, hsize]
        apply Bytes.slice_congr
        intro k _ hk
        exact h.data i (used_of_findEntry hi).1 k (by omega)
      rw [Option.map_some, Option.map_some, hbytes]
  have hopen : s'.openFile = s.openFile :=
    openFile_of_files h.handles fun k _ => hname _
  rw [view, view, hcontents, hopen]

/-- Whether a call shows bytes it has not written can be told from the byte files. -/
lemma Ramdisk.Covers.of_view {s s' : Ramdisk} {op : RamdiskOp} (hs : s.Consistent)
    (hs' : s'.Consistent) (hv : s'.view = s.view) (h : s.Covers op) : s'.Covers op := by
  have hhandle : ∀ k, s'.IsOpen k → s.IsOpen k ∧ (s'.handles k).pos = (s.handles k).pos ∧
      (s'.handles k).flags = (s.handles k).flags ∧
      (s'.files (s'.handles k).entryIdx).size = (s.files (s.handles k).entryIdx).size := by
    intro k hk
    have heq : s'.view.handles k = s.view.handles k := by rw [hv]
    rw [view_handles_of_isOpen hk] at heq
    by_cases ho : s.IsOpen k
    · rw [view_handles_of_isOpen ho, Option.some.injEq, OpenFile.mk.injEq] at heq
      obtain ⟨hname, hpos, hflags⟩ := heq
      have hbytes : (s'.files (s'.handles k).entryIdx).bytes =
          (s.files (s.handles k).entryIdx).bytes := by
        rw [← view_bytes hs'.names (hs'.entry_used k hk),
          ← view_bytes hs.names (hs.entry_used k ho), hv, hname]
      have hlength := congrArg List.length hbytes
      rw [RamdiskFile.bytes, RamdiskFile.bytes, Bytes.length_slice, Bytes.length_slice] at hlength
      exact ⟨ho, hpos, hflags, hlength⟩
    · rw [view_handles_of_not ho] at heq
      cases heq
  cases op with
  | write k buf =>
    intro hk
    obtain ⟨ho, hpos, hflags, hsize⟩ := hhandle k hk
    rw [hpos, hflags, hsize]
    exact h ho
  | ftruncate k size =>
    intro hk
    obtain ⟨ho, -, -, hsize⟩ := hhandle k hk
    rw [hsize]
    exact h ho
  | truncate path size =>
    intro nm i hpath hfind
    have hcontents : s'.contents nm = s.contents nm := congrFun (congrArg ByteFiles.contents hv) nm
    rw [contents_of_findEntry hfind] at hcontents
    cases hj : ramdiskFindEntry s nm with
    | none =>
      rw [contents_eq_none hj] at hcontents
      cases hcontents
    | some j =>
      rw [contents_of_findEntry hj, Option.some.injEq] at hcontents
      have hlength := congrArg List.length hcontents
      rw [RamdiskFile.bytes, RamdiskFile.bytes, Bytes.length_slice, Bytes.length_slice] at hlength
      rw [hlength]
      exact h nm j hpath hj
  | _ => exact trivial

lemma Ramdisk.runs_covers_of_view {s s' : Ramdisk} {ops : List RamdiskOp} (hs : s.Consistent)
    (hs' : s'.Consistent) (hv : s'.view = s.view) (hr : Machine.Runs Covers ramdiskStep s ops) :
    Machine.Runs Covers ramdiskStep s' ops := by
  induction ops generalizing s s' with
  | nil => trivial
  | cons op ops ih =>
    have hcov := hr.1.of_view hs hs' hv
    refine ⟨hcov, ih (step_consistent hs op) (step_consistent hs' op) ?_ hr.2⟩
    rw [refines_byteFiles.state s op hs hr.1, refines_byteFiles.state s' op hs' hcov, hv]

/-- Whatever two RAM disks hold where no file is, all calls of a run that shows no byte it has not
written give the same answers on both. -/
theorem ramdisk_noRemnants (m₁ m₂ : Ramdisk) (ops₁ ops₂ : List RamdiskOp)
    (h : (Machine.run ramdiskStep m₁.init ops₁).Alike (Machine.run ramdiskStep m₂.init ops₂))
    {ops : List RamdiskOp}
    (hr : Machine.Runs Ramdisk.Covers ramdiskStep (Machine.run ramdiskStep m₁.init ops₁) ops) :
    Machine.outputs ramdiskStep (Machine.run ramdiskStep m₁.init ops₁) ops =
      Machine.outputs ramdiskStep (Machine.run ramdiskStep m₂.init ops₂) ops := by
  have hs₁ := m₁.run_consistent ops₁
  have hs₂ := m₂.run_consistent ops₂
  have hr₂ := Ramdisk.runs_covers_of_view hs₁ hs₂ h.view_eq hr
  calc Machine.outputs ramdiskStep (Machine.run ramdiskStep m₁.init ops₁) ops
      = Machine.outputs ByteFiles.step (Machine.run ramdiskStep m₁.init ops₁).view ops :=
        Ramdisk.refines_byteFiles.outputs_eq hs₁ hr
    _ = Machine.outputs ByteFiles.step (Machine.run ramdiskStep m₂.init ops₂).view ops := by
        rw [h.view_eq]
    _ = Machine.outputs ramdiskStep (Machine.run ramdiskStep m₂.init ops₂) ops :=
        (Ramdisk.refines_byteFiles.outputs_eq hs₂ hr₂).symm

/-- A file that held one byte and was cut to nothing. -/
def cutFile (b : UInt8) : List RamdiskOp :=
  [.openFile [97] (vfsORdwr ||| vfsOCreat), .write 0 [b], .ftruncate 0 0]

lemma cutFile_files (b : UInt8) {i : Fin 64} (hi : i ≠ 0) :
    (Machine.run ramdiskStep Ramdisk.blank.init (cutFile b)).files i =
      Ramdisk.blank.init.files i := by
  calc (Machine.run ramdiskStep Ramdisk.blank.init (cutFile b)).files i
    _ = update (update (update Ramdisk.blank.init.files 0 _) 0 _) 0 _
        i := rfl
    _ = Ramdisk.blank.init.files i := by
        rw [update_of_ne hi, update_of_ne hi, update_of_ne hi]

lemma cutFile_alike (b b' : UInt8) :
    (Machine.run ramdiskStep Ramdisk.blank.init (cutFile b)).Alike
      (Machine.run ramdiskStep Ramdisk.blank.init (cutFile b')) := by
  constructor
  case handles => rfl
  case nextInode => rfl
  case mtimeTick => rfl
  case files =>
    intro i
    by_cases hi : i = 0
    · subst hi
      rfl
    · rw [cutFile_files b hi, cutFile_files b' hi]
  case data =>
    intro i _ k hk
    have hempty : ((Machine.run ramdiskStep Ramdisk.blank.init (cutFile b)).files i).size = 0 := by
      by_cases hi : i = 0
      · subst hi
        rfl
      · rw [cutFile_files b hi]
        rfl
    omega

/-- Two files that were cut to the same bytes. -/
theorem ramdisk_noRemnants_sample :
    Machine.outputs ramdiskStep (Machine.run ramdiskStep Ramdisk.blank.init (cutFile 1))
        [.write 0 [3], .lseek 0 0 vfsSeekSet, .read 0 5] =
      Machine.outputs ramdiskStep (Machine.run ramdiskStep Ramdisk.blank.init (cutFile 2))
        [.write 0 [3], .lseek 0 0 vfsSeekSet, .read 0 5] := by
  apply ramdisk_noRemnants _ _ _ _ (cutFile_alike 1 2)
  refine ⟨fun _ _ _ => ?_, trivial, trivial, trivial⟩
  decide

/-- A truncation to one byte shows the byte that was cut off. -/
theorem ramdisk_showsRemnants :
    (Machine.run ramdiskStep Ramdisk.blank.init (cutFile 1)).Alike
        (Machine.run ramdiskStep Ramdisk.blank.init (cutFile 2)) ∧
      Machine.outputs ramdiskStep (Machine.run ramdiskStep Ramdisk.blank.init (cutFile 1))
          [.ftruncate 0 1, .read 0 1] ≠
        Machine.outputs ramdiskStep (Machine.run ramdiskStep Ramdisk.blank.init (cutFile 2))
          [.ftruncate 0 1, .read 0 1] := by
  refine ⟨cutFile_alike 1 2, ?_⟩
  decide

end NeuroSpark
