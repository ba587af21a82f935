import Mathlib.Data.List.Find
import NeuroSpark.Lib.Machine
import NeuroSpark.Vfs.ByteFiles

/-!
# The RAM disk as a set of byte files

The bytes of a file are those of its slot up to its size. What lies behind is left from whatever the
slot held before: `ramdisk_delete` and a truncation only reset the size. A call shows such bytes if
it moves the size past them, by a truncation to a larger size or by a write that starts behind the
end. As long as no call does, the RAM disk is a set of independent byte files.
-/

namespace NeuroSpark

open Function (update update_self update_of_ne)
open Word

def RamdiskFile.bytes (f : RamdiskFile) : List UInt8 := f.data.slice 0 f.size

/-- No two files have one name. -/
def DistinctNames (files : Fin 64 → RamdiskFile) : Prop :=
  ∀ i j, (files i).used = true → (files j).used = true → (files i).name = (files j).name → i = j

namespace Ramdisk

def contents (s : Ramdisk) (nm : CString) : Option (List UInt8) :=
  (ramdiskFindEntry s nm).map fun i => (s.files i).bytes

def openFile (s : Ramdisk) (h : Nat) : Option OpenFile :=
  if s.IsOpen h then
    some ⟨(s.files (s.handles h).entryIdx).name, (s.handles h).pos, (s.handles h).flags⟩
  else none

/-- The byte files on a RAM disk. -/
def view (s : Ramdisk) : ByteFiles := ⟨s.contents, s.openFile⟩

/-- What holds between any two calls. -/
structure Consistent (s : Ramdisk) : Prop where
  names : DistinctNames s.files
  entry_used : ∀ h, s.IsOpen h → (s.files (s.handles h).entryIdx).used = true
  size_le : ∀ i, (s.files i).size ≤ 8192
  pos_le : ∀ h, s.IsOpen h → (s.handles h).pos ≤ 8192

/-- No handle is past the end of its file. -/
def Within (s : Ramdisk) : Prop :=
  ∀ h, s.IsOpen h → (s.handles h).pos ≤ (s.files (s.handles h).entryIdx).size

variable {s s' : Ramdisk} {i : Fin 64} {f : RamdiskFile} {nm : CString}

/-! ### Finding files -/

lemma used_of_findEntry (h : ramdiskFindEntry s nm = some i) :
    (s.files i).used = true ∧ (s.files i).name = nm := by
  have hfound := List.find?_some h
  simpa only [Bool.and_eq_true, beq_iff_eq] using hfound

lemma ne_of_findEntry (h : ramdiskFindEntry s nm = none) (hu : (s.files i).used = true) :
    (s.files i).name ≠ nm := by
  intro hname
  have hnot := List.find?_eq_none.1 h i (List.mem_finRange i)
  simp [hu, hname] at hnot

lemma findEntry_of_used (hn : DistinctNames s.files) (hu : (s.files i).used = true)
    (hname : (s.files i).name = nm) : ramdiskFindEntry s nm = some i := by
  cases hfind : ramdiskFindEntry s nm with
  | none => exact absurd hname (ne_of_findEntry hfind hu)
  | some j =>
    obtain ⟨huj, hnamej⟩ := used_of_findEntry hfind
    rw [hn i j hu huj (hname.trans hnamej.symm)]

lemma contents_of_used (hn : DistinctNames s.files) (hu : (s.files i).used = true) :
    s.contents (s.files i).name = some (s.files i).bytes := by
  rw [contents, findEntry_of_used hn hu rfl]
  rfl

lemma contents_congr (h : s'.files = s.files) : s'.contents = s.contents := by
  funext nm
  simp only [contents, ramdiskFindEntry, h]

lemma contents_of_findEntry (h : ramdiskFindEntry s nm = some i) :
    s.contents nm = some (s.files i).bytes := by
  rw [contents, h]
  rfl

/-- The contents after the file in one slot was replaced. -/
lemma contents_update (hfiles : s'.files = update s.files i f) (hn : DistinctNames s.files)
    (hn' : DistinctNames s'.files) (nm : CString) :
    s'.contents nm =
      if f.used = true ∧ f.name = nm then some f.bytes
      else if (s.files i).used = true ∧ (s.files i).name = nm then none
      else s.contents nm := by
  have hself : s'.files i = f := by rw [hfiles, update_self]
  have hother : ∀ j, j ≠ i → s'.files j = s.files j := by
    intro j hj
    rw [hfiles, update_of_ne hj]
  by_cases hnew : f.used = true ∧ f.name = nm
  · rw [if_pos hnew, ← hself, ← hnew.2, ← hself]
    apply contents_of_used hn'
    rw [hself]
    exact hnew.1
  · rw [if_neg hnew]
    by_cases hold : (s.files i).used = true ∧ (s.files i).name = nm
    · rw [if_pos hold, contents, Option.map_eq_none_iff]
      by_contra hsome
      obtain ⟨j, hj⟩ := Option.ne_none_iff_exists'.1 hsome
      obtain ⟨hu, hname⟩ := used_of_findEntry hj
      by_cases hji : j = i
      · rw [hji, hself] at hu hname
        exact hnew ⟨hu, hname⟩
      · rw [hother j hji] at hu hname
        exact hji (hn j i hu hold.1 (hname.trans hold.2.symm))
    · rw [if_neg hold]
      have hfind : ramdiskFindEntry s' nm = ramdiskFindEntry s nm := by
        apply List.find?_congr
        intro j _
        by_cases hji : j = i
        · subst hji
          rw [hself, Bool.eq_iff_iff]
          simp only [Bool.and_eq_true, beq_iff_eq]
          exact iff_of_false hnew hold
        · rw [hother j hji]
      rw [contents, contents, hfind]
      cases hj : ramdiskFindEntry s nm with
      | none => rfl
      | some j =>
        have hji : j ≠ i := by
          rintro rfl
          exact hold (used_of_findEntry hj)
        simp [hother j hji]

lemma contents_update_same (hfiles : s'.files = update s.files i f) (hn : DistinctNames s.files)
    (hn' : DistinctNames s'.files) (hu : f.used = true)
    (hname : (s.files i).used = true → (s.files i).name = f.name) :
    s'.contents = update s.contents f.name (some f.bytes) := by
  funext nm
  rw [contents_update hfiles hn hn']
  by_cases hnm : nm = f.name
  · subst hnm
    rw [if_pos ⟨hu, rfl⟩, update_self]
  · rw [if_neg fun h => hnm h.2.symm, update_of_ne hnm, if_neg]
    rintro ⟨hui, hni⟩
    exact hnm (hni.symm.trans (hname hui))

lemma distinctNames_update (hn : DistinctNames s.files)
    (hne : f.used = true → ∀ j, j ≠ i → (s.files j).used = true → (s.files j).name ≠ f.name) :
    DistinctNames (update s.files i f) := by
  intro j k hj hk hjk
  by_cases hji : j = i
  · subst hji
    by_contra hkj
    rw [update_self] at hj hjk
    rw [update_of_ne (Ne.symm hkj)] at hk hjk
    exact hne hj k (Ne.symm hkj) hk hjk.symm
  · rw [update_of_ne hji] at hj hjk
    by_cases hki : k = i
    · subst hki
      rw [update_self] at hk hjk
      exact absurd hjk (hne hk j hji hj)
    · rw [update_of_ne hki] at hk hjk
      exact hn j k hj hk hjk

lemma distinctNames_of_same (hn : DistinctNames s.files) (hu : (s.files i).used = true)
    (hname : f.name = (s.files i).name) :
    DistinctNames (update s.files i f) := by
  apply distinctNames_update hn
  intro _ j hj huj hnj
  exact hj (hn j i huj hu (hnj.trans hname))

/-! ### Handles -/

lemma openFile_of_isOpen {h : Nat} (ho : s.IsOpen h) :
    s.openFile h = some ⟨(s.files (s.handles h).entryIdx).name, (s.handles h).pos,
      (s.handles h).flags⟩ := if_pos ho

lemma openFile_of_not {h : Nat} (ho : ¬ s.IsOpen h) : s.openFile h = none := if_neg ho

lemma openFile_setHandle (s : Ramdisk) (h : Nat) (x : RamdiskHandle) :
    (s.setHandle h x).openFile = update s.openFile h
      (if h < ramdiskMaxHandles ∧ x.used = true then
        some ⟨(s.files x.entryIdx).name, x.pos, x.flags⟩
      else none) := by
  funext k
  by_cases hk : k = h
  · subst hk
    simp only [openFile, IsOpen, setHandle, update_self]
  · simp only [openFile, IsOpen, setHandle, update_of_ne hk]
    rfl

lemma openFile_of_files (hhandles : s'.handles = s.handles)
    (hnames : ∀ h, s.IsOpen h →
      (s'.files (s.handles h).entryIdx).name = (s.files (s.handles h).entryIdx).name) :
    s'.openFile = s.openFile := by
  funext h
  by_cases ho : s.IsOpen h
  · have ho' : s'.IsOpen h := by
      rw [IsOpen, hhandles]
      exact ho
    rw [openFile_of_isOpen ho, openFile_of_isOpen ho', hhandles, hnames h ho]
  · have ho' : ¬ s'.IsOpen h := by
      rw [IsOpen, hhandles]
      exact ho
    rw [openFile_of_not ho, openFile_of_not ho']

lemma view_setHandle (s : Ramdisk) (h : Nat) (x : RamdiskHandle) :
    (s.setHandle h x).view = s.view.setHandle h
      (if h < ramdiskMaxHandles ∧ x.used = true then
        some ⟨(s.files x.entryIdx).name, x.pos, x.flags⟩
      else none) := by
  have hcontents : (s.setHandle h x).contents = s.contents := contents_congr rfl
  rw [view, openFile_setHandle, hcontents]
  rfl

section

variable (hs : s.Consistent)
include hs

lemma Consistent.setHandle {h : Nat} {x : RamdiskHandle}
    (hx : x.used = true → (s.files x.entryIdx).used = true ∧ x.pos ≤ 8192) :
    (s.setHandle h x).Consistent where
  names := hs.names
  entry_used k hk := by
    by_cases hkh : k = h
    · subst hkh
      simp only [IsOpen, Ramdisk.setHandle, update_self] at hk ⊢
      exact (hx hk.2).1
    · simp only [IsOpen, Ramdisk.setHandle, update_of_ne hkh] at hk ⊢
      exact hs.entry_used k hk
  size_le := hs.size_le
  pos_le k hk := by
    by_cases hkh : k = h
    · subst hkh
      simp only [IsOpen, Ramdisk.setHandle, update_self] at hk ⊢
      exact (hx hk.2).2
    · simp only [IsOpen, Ramdisk.setHandle, update_of_ne hkh] at hk ⊢
      exact hs.pos_le k hk

lemma Consistent.of_files (hfiles : s'.files = update s.files i f)
    (hhandles : s'.handles = s.handles) (hn : DistinctNames (update s.files i f))
    (hu : f.used = true ∨ ∀ h, s.IsOpen h → (s.handles h).entryIdx ≠ i) (hsize : f.size ≤ 8192) :
    s'.Consistent where
  names := by
    rw [hfiles]
    exact hn
  entry_used h ho := by
    rw [IsOpen, hhandles] at ho
    rw [hhandles, hfiles]
    by_cases hi : (s.handles h).entryIdx = i
    · rw [hi, update_self]
      exact hu.resolve_right fun hne => hne h ho hi
    · rw [update_of_ne hi]
      exact hs.entry_used h ho
  size_le j := by
    rw [hfiles]
    by_cases hj : j = i
    · rw [hj, update_self]
      exact hsize
    · rw [update_of_ne hj]
      exact hs.size_le j
  pos_le h ho := by
    rw [IsOpen, hhandles] at ho
    rw [hhandles]
    exact hs.pos_le h ho

lemma Consistent.touch_same (hu : (s.files i).used = true) (hfu : f.used = true)
    (hname : f.name = (s.files i).name) (hsize : f.size ≤ 8192) :
    (s.touch i f).Consistent ∧ (s.touch i f).view = s.view.setContents f.name (some f.bytes) := by
  have hn : DistinctNames (update s.files i { f with mtime := s.mtimeTick }) :=
    distinctNames_of_same hs.names hu hname
  constructor
  · exact hs.of_files rfl rfl hn (Or.inl hfu) hsize
  · have hcontents : (s.touch i f).contents = update s.contents f.name (some f.bytes) :=
      contents_update_same (f := { f with mtime := s.mtimeTick }) rfl hs.names hn hfu
        fun _ => hname.symm
    have hopen : (s.touch i f).openFile = s.openFile := by
      refine openFile_of_files rfl fun h _ => ?_
      by_cases hi : (s.handles h).entryIdx = i
      · rw [hi]
        simpa [touch, setFile] using hname
      · simp [touch, setFile, hi]
    rw [view, hcontents, hopen]
    rfl

/-! ### Opening -/

omit hs in
lemma openEntry_view (flags : UInt32) :
    ((ramdiskOpenEntry s i flags).1.view, (ramdiskOpenEntry s i flags).2) =
      s.view.openName (s.files i).name flags := by
  have hfree : ramdiskAllocHandle s =
      (List.range ramdiskMaxHandles).find? fun h => (s.view.handles h).isNone := by
    apply List.find?_congr
    intro h hh
    have hlt : h < ramdiskMaxHandles := List.mem_range.1 hh
    change _ = (s.openFile h).isNone
    by_cases hu : (s.handles h).used = true
    · rw [openFile_of_isOpen ⟨hlt, hu⟩, hu]
      rfl
    · rw [openFile_of_not fun ho => hu ho.2]
      simp [hu]
  rw [ByteFiles.openName, ← hfree, ramdiskOpenEntry]
  cases halloc : ramdiskAllocHandle s with
  | none => rfl
  | some h =>
    have hlt : h < ramdiskMaxHandles := List.mem_range.1 (List.mem_of_find?_eq_some halloc)
    simp only [view_setHandle, hlt, and_self, if_true]

lemma openEntry_consistent (hu : (s.files i).used = true) (flags : UInt32) :
    (ramdiskOpenEntry s i flags).1.Consistent := by
  unfold ramdiskOpenEntry
  cases ramdiskAllocHandle s with
  | none => exact hs
  | some h => exact hs.setHandle fun _ => ⟨hu, Nat.zero_le _⟩

omit hs in
/-- There is a free slot exactly when there are fewer than 64 files. -/
lemma ncard_names (hn : DistinctNames s.files) :
    s.view.names.ncard < ramdiskMaxFiles ↔ ramdiskAllocEntry s ≠ none := by
  have hnames : s.view.names = (fun i => (s.files i).name) '' {i | (s.files i).used = true} := by
    ext nm
    constructor
    · intro hnm
      obtain ⟨c, hc⟩ := Option.ne_none_iff_exists'.1 hnm
      obtain ⟨i, hi, -⟩ := Option.map_eq_some_iff.1 hc
      exact ⟨i, used_of_findEntry hi⟩
    · rintro ⟨i, hu, rfl⟩ hnone
      change s.contents _ = none at hnone
      rw [contents_of_used hn hu] at hnone
      cases hnone
  have hcard : s.view.names.ncard = {i | (s.files i).used = true}.ncard := by
    rw [hnames]
    have hinj : Set.InjOn (fun i => (s.files i).name) {i | (s.files i).used = true} :=
      fun i hi j hj hij => hn i j hi hj hij
    exact hinj.ncard_image
  rw [hcard]
  constructor
  · intro hlt hnone
    have hall : {i | (s.files i).used = true} = Set.univ := by
      apply Set.eq_univ_of_forall
      intro i
      have hi := List.find?_eq_none.1 hnone i (List.mem_finRange i)
      simpa using hi
    rw [hall, Set.ncard_univ, Nat.card_fin] at hlt
    exact absurd hlt (lt_irrefl _)
  · intro hsome
    obtain ⟨i, hi⟩ := Option.ne_none_iff_exists'.1 hsome
    have hunused := List.find?_some hi
    have hlt : {i | (s.files i).used = true} ⊂ Set.univ := by
      rw [Set.ssubset_univ_iff]
      intro huniv
      have hmem : i ∈ {i | (s.files i).used = true} := huniv ▸ Set.mem_univ i
      rw [Set.mem_ofPred_eq] at hmem
      simp [hmem] at hunused
    calc {i | (s.files i).used = true}.ncard < (Set.univ : Set (Fin 64)).ncard :=
          Set.ncard_lt_ncard hlt
      _ = ramdiskMaxFiles := by rw [Set.ncard_univ, Nat.card_fin]; rfl

/-- A new file in a free slot. -/
lemma create_spec (hnone : ramdiskFindEntry s nm = none) (hfree : (s.files i).used = false)
    {n m : Nat} {s₁ : Ramdisk}
    (hs₁ : s₁ = ({ s with nextInode := n }).touch i
      { s.files i with used := true, name := nm, size := 0, inode := m }) :
    s₁.Consistent ∧ (s₁.files i).used = true ∧ (s₁.files i).name = nm ∧
      s₁.view = s.view.setContents nm (some []) := by
  subst hs₁
  have hne : ∀ h, s.IsOpen h → (s.handles h).entryIdx ≠ i := by
    intro h ho hi
    have hu := hs.entry_used h ho
    rw [hi, hfree] at hu
    cases hu
  have hn : DistinctNames (update s.files i
      { s.files i with used := true, name := nm, size := 0, inode := m, mtime := s.mtimeTick }) :=
    distinctNames_update hs.names fun _ j _ hu => ne_of_findEntry hnone hu
  refine ⟨?_, ?_, ?_, ?_⟩
  · exact hs.of_files rfl rfl hn (Or.inl rfl) (Nat.zero_le _)
  · simp [touch, setFile]
  · simp [touch, setFile]
  · have hcontents : (({ s with nextInode := n }).touch i
        { s.files i with used := true, name := nm, size := 0, inode := m }).contents =
          update s.contents nm (some []) := by
      refine contents_update_same (s := s) (i := i)
        (f := { s.files i with
          used := true, name := nm, size := 0, inode := m, mtime := s.mtimeTick })
        rfl hs.names hn rfl fun hu => ?_
      rw [hfree] at hu
      cases hu
    have hopen : (({ s with nextInode := n }).touch i
        { s.files i with used := true, name := nm, size := 0, inode := m }).openFile =
          s.openFile :=
      openFile_of_files rfl fun h ho =>
        congrArg RamdiskFile.name (update_of_ne (hne h ho) ..)
    rw [view, hcontents, hopen]
    rfl

lemma open_view (path : CString) (flags : UInt32) : (ramdiskOpen s path flags).1.Consistent ∧
      ((ramdiskOpen s path flags).1.view, (ramdiskOpen s path flags).2) =
        s.view.openFile path flags := by
  unfold ramdiskOpen ByteFiles.openFile
  cases ramdiskExtractName path with
  | none => exact ⟨hs, rfl⟩
  | some nm =>
    dsimp only
    cases hfind : ramdiskFindEntry s nm with
    | none =>
      have hnone : s.view.contents nm = none := by simp [view, contents, hfind]
      rw [hnone]
      by_cases hcreat : flags &&& vfsOCreat = 0
      · rw [if_pos hcreat, if_pos hcreat]
        exact ⟨hs, rfl⟩
      · rw [if_neg hcreat, if_neg hcreat]
        cases halloc : ramdiskAllocEntry s with
        | none =>
          rw [if_neg fun hlt => (ncard_names hs.names).1 hlt halloc]
          exact ⟨hs, rfl⟩
        | some i =>
          have hfree : (s.files i).used = false := by
            simpa using List.find?_some halloc
          rw [if_pos ((ncard_names hs.names).2 (by rw [halloc]; simp))]
          obtain ⟨hcons, hu, hname, hview⟩ := create_spec (n := u32 (s.nextInode + 1))
            (m := s.nextInode) hs hfind hfree rfl
          refine ⟨openEntry_consistent hcons hu flags, ?_⟩
          rw [openEntry_view, hname, hview]
    | some i =>
      obtain ⟨hu, hname⟩ := used_of_findEntry hfind
      have hsome : s.view.contents nm = some (s.files i).bytes := contents_of_findEntry hfind
      rw [hsome]
      dsimp only
      by_cases htrunc : flags &&& vfsOTrunc ≠ 0
      · rw [if_pos htrunc, if_pos htrunc]
        obtain ⟨hcons, hview⟩ := hs.touch_same (f := { s.files i with size := 0 }) hu hu rfl
          (Nat.zero_le _)
        refine ⟨openEntry_consistent hcons ?_ flags, ?_⟩
        · simpa [touch, setFile] using hu
        · rw [openEntry_view, hview]
          simp [touch, setFile, hname, RamdiskFile.bytes, Bytes.slice]
      · rw [if_neg htrunc, if_neg htrunc]
        refine ⟨openEntry_consistent hs hu flags, ?_⟩
        rw [openEntry_view, hname]

/-! ### Reading and writing -/

omit hs in
lemma view_handles_of_isOpen {h : Nat} (ho : s.IsOpen h) :
    s.view.handles h = some ⟨(s.files (s.handles h).entryIdx).name, (s.handles h).pos,
      (s.handles h).flags⟩ := openFile_of_isOpen ho

omit hs in
lemma view_handles_of_not {h : Nat} (ho : ¬ s.IsOpen h) : s.view.handles h = none :=
  openFile_of_not ho

omit hs in
lemma view_bytes (hn : DistinctNames s.files) (hu : (s.files i).used = true) :
    s.view.bytes (s.files i).name = (s.files i).bytes := by
  change (s.contents _).getD [] = _
  rw [contents_of_used hn hu]
  rfl

omit hs in
lemma setHandle_same (a : ByteFiles) {h : Nat} {x : Option OpenFile} (hx : a.handles h = x) :
    a.setHandle h x = a := by
  subst hx
  rw [ByteFiles.setHandle, Function.update_eq_self]

lemma move_spec {h : Nat} (ho : s.IsOpen h) {p : Nat} (hp : p ≤ 8192) :
    (s.setHandle h { s.handles h with pos := p }).Consistent ∧
      (s.setHandle h { s.handles h with pos := p }).view = s.view.setHandle h
        (some ⟨(s.files (s.handles h).entryIdx).name, p, (s.handles h).flags⟩) := by
  constructor
  · exact hs.setHandle fun _ => ⟨hs.entry_used h ho, hp⟩
  · rw [view_setHandle, if_pos ⟨ho.1, ho.2⟩]

lemma read_view (h size : Nat) : (ramdiskRead s h size).1.Consistent ∧
      ((ramdiskRead s h size).1.view, (ramdiskRead s h size).2) = s.view.read h size := by
  unfold ramdiskRead ByteFiles.read
  by_cases ho : s.IsOpen h
  · have hu := hs.entry_used h ho
    have hsize := hs.size_le (s.handles h).entryIdx
    rw [if_neg (not_not.2 ho), view_handles_of_isOpen ho]
    dsimp only
    by_cases hr : ramdiskReadable (s.handles h).flags
    · rw [if_neg (not_not.2 hr), if_neg (not_not.2 hr), view_bytes hs.names hu,
        RamdiskFile.bytes, Bytes.slice_drop, Bytes.slice_take, Nat.zero_add]
      by_cases hend : (s.files (s.handles h).entryIdx).size ≤ (s.handles h).pos
      · rw [if_pos hend, Nat.sub_eq_zero_of_le hend, Nat.min_zero]
        refine ⟨hs, ?_⟩
        have hnil : (s.files (s.handles h).entryIdx).data.slice (s.handles h).pos 0 = [] := rfl
        rw [hnil, setHandle_same]
        exact view_handles_of_isOpen ho
      · rw [if_neg hend]
        obtain ⟨hcons, hview⟩ := move_spec hs ho
          (p := (s.handles h).pos + min size ((s.files (s.handles h).entryIdx).size -
            (s.handles h).pos)) (by omega)
        refine ⟨hcons, ?_⟩
        rw [hview, Bytes.length_slice]
    · rw [if_pos hr, if_pos hr]
      exact ⟨hs, rfl⟩
  · rw [if_pos ho, view_handles_of_not ho]
    exact ⟨hs, rfl⟩

/-- No byte is shown that the call has not written: no file grows by a truncation, and no write
starts past the end. -/
def Covers (s : Ramdisk) : RamdiskOp → Prop
  | .write h _ => s.IsOpen h → ramdiskWritable (s.handles h).flags →
      (s.handles h).pos < ramdiskFileCapacity →
      (s.handles h).pos ≤ (s.files (s.handles h).entryIdx).size
  | .truncate path size => ∀ nm i, ramdiskExtractName path = some nm →
      ramdiskFindEntry s nm = some i → min size ramdiskFileCapacity ≤ (s.files i).size
  | .ftruncate h size => s.IsOpen h →
      min size ramdiskFileCapacity ≤ (s.files (s.handles h).entryIdx).size
  | _ => True

omit hs in
lemma bytes_patch {p : Nat} {l : List UInt8} (hp : p ≤ f.size) (hl : p + l.length ≤ 8192) :
    ({ f with data := f.data.patch p l, size := max f.size (p + l.length) } : RamdiskFile).bytes =
      overwrite f.bytes p l := by
  have hlen : f.bytes.length = f.size := Bytes.length_slice _ _ _
  have hsplit : max f.size (p + l.length) =
      p + (l.length + (f.size - (p + l.length))) := by omega
  rw [RamdiskFile.bytes, overwrite, hlen, Nat.sub_eq_zero_of_le hp, List.replicate_zero,
    List.append_nil]
  rw [hsplit, Bytes.slice_add, Bytes.slice_add, Nat.zero_add, Bytes.slice_patch_same _ _ _ hl,
    Bytes.slice_patch_disjoint _ _ _ _ _ (Or.inl (by omega)),
    Bytes.slice_patch_disjoint _ _ _ _ _ (Or.inr le_rfl), RamdiskFile.bytes, Bytes.slice_take,
    Bytes.slice_drop, Nat.zero_add, Nat.min_eq_left hp, List.append_assoc]

lemma write_spec {h : Nat} (ho : s.IsOpen h) {l : List UInt8}
    (hl : (s.handles h).pos + l.length ≤ 8192) {f : RamdiskFile}
    (hf : f = { s.files (s.handles h).entryIdx with
      data := (s.files (s.handles h).entryIdx).data.patch (s.handles h).pos l
      size := max (s.files (s.handles h).entryIdx).size ((s.handles h).pos + l.length) })
    {s₁ : Ramdisk}
    (hs₁ : s₁ = (s.setHandle h { s.handles h with pos := (s.handles h).pos + l.length }).touch
      (s.handles h).entryIdx f) :
    s₁.Consistent ∧ ((s.handles h).pos ≤ (s.files (s.handles h).entryIdx).size →
      s₁.view = (s.view.setContents (s.files (s.handles h).entryIdx).name
        (some (overwrite (s.view.bytes (s.files (s.handles h).entryIdx).name)
          (s.handles h).pos l))).setHandle h
        (some ⟨(s.files (s.handles h).entryIdx).name, (s.handles h).pos + l.length,
          (s.handles h).flags⟩)) := by
  have hu := hs.entry_used h ho
  have hsize := hs.size_le (s.handles h).entryIdx
  obtain ⟨hcons, hview⟩ := move_spec hs ho hl
  obtain ⟨hcons', hview'⟩ := hcons.touch_same (i := (s.handles h).entryIdx) (f := f) hu
    (by rw [hf]; exact hu) (by rw [hf]; rfl) (by rw [hf]; exact max_le hsize hl)
  subst hs₁
  refine ⟨hcons', fun hp => ?_⟩
  have hbytes : f.bytes = overwrite (s.view.bytes (s.files (s.handles h).entryIdx).name)
      (s.handles h).pos l := by
    rw [view_bytes hs.names hu, hf]
    exact bytes_patch hp hl
  rw [hview', hview, hbytes, hf]
  rfl

lemma write_view (h : Nat) (buf : List UInt8) :
    (ramdiskWrite s h buf).1.Consistent ∧ (s.Covers (.write h buf) →
      ((ramdiskWrite s h buf).1.view, (ramdiskWrite s h buf).2) = s.view.write h buf) := by
  unfold ramdiskWrite ByteFiles.write
  by_cases ho : s.IsOpen h
  · rw [if_neg (not_not.2 ho), view_handles_of_isOpen ho]
    dsimp only
    by_cases hw : ramdiskWritable (s.handles h).flags
    · rw [if_neg (not_not.2 hw), if_neg (not_not.2 hw)]
      by_cases hcap : ramdiskFileCapacity ≤ (s.handles h).pos
      · rw [if_pos hcap, if_pos hcap]
        exact ⟨hs, fun _ => rfl⟩
      · rw [if_neg hcap, if_neg hcap]
        have hlen : (buf.take (min buf.length (ramdiskFileCapacity - (s.handles h).pos))).length =
            min buf.length (ramdiskFileCapacity - (s.handles h).pos) := by
          rw [List.length_take]
          omega
        have htake : buf.take (ramdiskFileCapacity - (s.handles h).pos) =
            buf.take (min buf.length (ramdiskFileCapacity - (s.handles h).pos)) := by
          rw [List.take_eq_take_iff]
          omega
        have hmax : ∀ a b : Nat, (if b > a then b else a) = max a b := by
          intro a b
          split_ifs <;> omega
        rw [htake]
        generalize hl : buf.take (min buf.length (ramdiskFileCapacity - (s.handles h).pos)) = l
          at hlen ⊢
        rw [← hlen, hmax]
        have hroom : (s.handles h).pos + l.length ≤ 8192 := by
          rw [hlen]
          simp only [ramdiskFileCapacity] at hcap ⊢
          omega
        obtain ⟨hcons, hview⟩ := write_spec hs ho hroom rfl rfl
        refine ⟨hcons, fun hcov => ?_⟩
        rw [hview (hcov ho hw (not_le.1 hcap))]
    · rw [if_pos hw, if_pos hw]
      exact ⟨hs, fun _ => rfl⟩
  · rw [if_pos ho, view_handles_of_not ho]
    exact ⟨hs, fun _ => rfl⟩

lemma close_view (h : Nat) : (ramdiskClose s h).1.Consistent ∧
      ((ramdiskClose s h).1.view, (ramdiskClose s h).2) = s.view.close h := by
  unfold ramdiskClose ByteFiles.close
  by_cases ho : s.IsOpen h
  · rw [if_neg (not_not.2 ho), view_handles_of_isOpen ho]
    constructor
    · exact hs.setHandle fun hu => by cases hu
    · simp only [view_setHandle, RamdiskHandle.closed, Bool.false_eq_true, and_false, if_false]
  · rw [if_pos ho, view_handles_of_not ho]
    exact ⟨hs, rfl⟩

lemma lseek_view (h : Nat) (offset whence : Int) : (ramdiskLseek s h offset whence).1.Consistent ∧
      ((ramdiskLseek s h offset whence).1.view, (ramdiskLseek s h offset whence).2) =
        s.view.lseek h offset whence := by
  unfold ramdiskLseek ByteFiles.lseek
  by_cases ho : s.IsOpen h
  · have hu := hs.entry_used h ho
    have hsize := hs.size_le (s.handles h).entryIdx
    have hpos := hs.pos_le h ho
    rw [if_neg (not_not.2 ho), view_handles_of_isOpen ho]
    dsimp only
    by_cases hwhence : whence ≠ vfsSeekSet ∧ whence ≠ vfsSeekCur ∧ whence ≠ vfsSeekEnd
    · rw [if_pos hwhence, if_pos hwhence]
      exact ⟨hs, rfl⟩
    · rw [if_neg hwhence, if_neg hwhence, view_bytes hs.names hu, RamdiskFile.bytes,
        Bytes.length_slice]
      have hi32 : i32 ((s.files (s.handles h).entryIdx).size : Int) =
          (s.files (s.handles h).entryIdx).size := i32_of_range (by omega) (by omega)
      have hi32pos : i32 ((s.handles h).pos : Int) = (s.handles h).pos :=
        i32_of_range (by omega) (by omega)
      have hclamp : ∀ target size : Int, 0 ≤ size →
          (if (if target < 0 then 0 else target) > size then size
            else if target < 0 then 0 else target) = min (max target 0) size := by
        intro target size hsize
        split_ifs <;> omega
      rw [hi32, hi32pos, hclamp _ _ (Int.natCast_nonneg _)]
      unfold seekTarget
      generalize htarget : min (max (if whence = vfsSeekSet then i32 offset
        else if whence = vfsSeekCur then i32 ((s.handles h).pos + offset)
        else i32 ((s.files (s.handles h).entryIdx).size + offset)) 0)
          ((s.files (s.handles h).entryIdx).size : Int) = target
      have hbounds : 0 ≤ target ∧ target ≤ 8192 := by
        omega
      have hof : ofInt32 target = target.toNat := by
        unfold ofInt32
        omega
      obtain ⟨hcons, hview⟩ := move_spec hs ho (p := target.toNat) (by omega)
      rw [hof]
      exact ⟨hcons, by rw [hview]⟩
  · rw [if_pos ho, view_handles_of_not ho]
    exact ⟨hs, rfl⟩

/-! ### Names and sizes -/

omit hs in
lemma contents_eq_none (h : ramdiskFindEntry s nm = none) : s.contents nm = none := by
  rw [contents, h]
  rfl

lemma name_eq_iff {h : Nat} (ho : s.IsOpen h) (hfind : ramdiskFindEntry s nm = some i) :
    (s.files (s.handles h).entryIdx).name = nm ↔ (s.handles h).entryIdx = i := by
  obtain ⟨hu, hname⟩ := used_of_findEntry hfind
  constructor
  · intro hnm
    exact hs.names _ _ (hs.entry_used h ho) hu (hnm.trans hname.symm)
  · intro hi
    rw [hi, hname]

lemma delete_view (path : CString) : (ramdiskDelete s path).1.Consistent ∧
      ((ramdiskDelete s path).1.view, (ramdiskDelete s path).2) = s.view.delete path := by
  unfold ramdiskDelete ByteFiles.delete
  cases ramdiskExtractName path with
  | none => exact ⟨hs, rfl⟩
  | some nm =>
    dsimp only
    cases hfind : ramdiskFindEntry s nm with
    | none =>
      have hnone : s.view.contents nm = none := contents_eq_none hfind
      rw [hnone]
      exact ⟨hs, rfl⟩
    | some i =>
      obtain ⟨hu, hname⟩ := used_of_findEntry hfind
      have hsome : s.view.contents nm = some (s.files i).bytes := contents_of_findEntry hfind
      have hopen : (∃ h ∈ List.range ramdiskMaxHandles,
          (s.handles h).used = true ∧ (s.handles h).entryIdx = i) ↔
          ∃ h f, s.view.handles h = some f ∧ f.name = nm := by
        constructor
        · rintro ⟨h, hh, hused, hi⟩
          have ho : s.IsOpen h := ⟨List.mem_range.1 hh, hused⟩
          exact ⟨h, _, view_handles_of_isOpen ho, (name_eq_iff hs ho hfind).2 hi⟩
        · rintro ⟨h, f, hf, hnm⟩
          by_cases ho : s.IsOpen h
          · rw [view_handles_of_isOpen ho, Option.some.injEq] at hf
            subst hf
            exact ⟨h, List.mem_range.2 ho.1, ho.2, (name_eq_iff hs ho hfind).1 hnm⟩
          · rw [view_handles_of_not ho] at hf
            cases hf
      rw [hsome]
      dsimp only
      by_cases hbusy : ∃ h f, s.view.handles h = some f ∧ f.name = nm
      · rw [if_pos hbusy, if_pos (hopen.2 hbusy)]
        exact ⟨hs, rfl⟩
      · rw [if_neg hbusy, if_neg fun h => hbusy (hopen.1 h)]
        have hfree : ∀ h, s.IsOpen h → (s.handles h).entryIdx ≠ i := by
          intro h ho hi
          exact hbusy ⟨h, _, view_handles_of_isOpen ho, (name_eq_iff hs ho hfind).2 hi⟩
        have hn : DistinctNames
            (update s.files i ⟨false, [], 0, 0, 0, (s.files i).data⟩) :=
          distinctNames_update hs.names fun hused => by cases hused
        have hcontents : (s.setFile i ⟨false, [], 0, 0, 0, (s.files i).data⟩).contents =
            update s.contents nm none := by
          funext nm'
          rw [contents_update (s := s) (i := i) (f := ⟨false, [], 0, 0, 0, (s.files i).data⟩) rfl
            hs.names hn]
          by_cases hnm : nm' = nm
          · subst hnm
            rw [if_neg (by simp), if_pos ⟨hu, hname⟩, update_self]
          · rw [if_neg (by simp), if_neg fun h => hnm (h.2.symm.trans hname),
              update_of_ne hnm]
        have hopenFile : (s.setFile i ⟨false, [], 0, 0, 0, (s.files i).data⟩).openFile =
            s.openFile :=
          openFile_of_files rfl fun h ho =>
            congrArg RamdiskFile.name (update_of_ne (hfree h ho) ..)
        constructor
        · exact hs.of_files rfl rfl hn (Or.inr hfree) (Nat.zero_le _)
        · rw [view, hcontents, hopenFile]
          rfl

/-- A file gets a name that no other file has. -/
lemma rename_spec {old new : CString} (hfind : ramdiskFindEntry s old = some i)
    (hnew : ∀ j, j ≠ i → (s.files j).used = true → (s.files j).name ≠ new) {s₁ : Ramdisk}
    (hs₁ : s₁ = s.touch i { s.files i with name := new }) :
    s₁.Consistent ∧ s₁.view =
      { contents := update (update s.view.contents old none) new
          (some (s.files i).bytes)
        handles := fun h => (s.view.handles h).map fun f =>
          if f.name = old then { f with name := new } else f } := by
  subst hs₁
  obtain ⟨hu, hname⟩ := used_of_findEntry hfind
  have hn : DistinctNames
      (update s.files i { s.files i with name := new, mtime := s.mtimeTick }) :=
    distinctNames_update hs.names fun _ j hj huj => hnew j hj huj
  have hcontents : (s.touch i { s.files i with name := new }).contents =
      update (update s.contents old none) new (some (s.files i).bytes) := by
    funext nm
    rw [contents_update (s := s) (i := i)
      (f := { s.files i with name := new, mtime := s.mtimeTick }) rfl hs.names hn]
    by_cases hnm : nm = new
    · subst hnm
      rw [if_pos ⟨hu, rfl⟩, update_self]
      rfl
    · rw [if_neg fun h => hnm h.2.symm, update_of_ne hnm]
      by_cases hold : nm = old
      · subst hold
        rw [if_pos ⟨hu, hname⟩, update_self]
      · rw [if_neg fun h => hold (h.2.symm.trans hname), update_of_ne hold]
  have hopen : (s.touch i { s.files i with name := new }).openFile = fun h =>
      (s.openFile h).map fun f => if f.name = old then { f with name := new } else f := by
    funext h
    by_cases ho : s.IsOpen h
    · have ho' : (s.touch i { s.files i with name := new }).IsOpen h := ho
      rw [openFile_of_isOpen ho, openFile_of_isOpen ho', Option.map_some]
      by_cases hi : (s.handles h).entryIdx = i
      · rw [if_pos ((name_eq_iff hs ho hfind).2 hi)]
        simp [touch, setFile, hi]
      · rw [if_neg fun hnm => hi ((name_eq_iff hs ho hfind).1 hnm)]
        simp [touch, setFile, hi]
    · have ho' : ¬ (s.touch i { s.files i with name := new }).IsOpen h := ho
      rw [openFile_of_not ho, openFile_of_not ho']
      rfl
  constructor
  · exact hs.of_files rfl rfl hn (Or.inl hu) (hs.size_le i)
  · rw [view, hcontents, hopen]
    rfl

lemma rename_view (oldPath newPath : CString) : (ramdiskRename s oldPath newPath).1.Consistent ∧
      ((ramdiskRename s oldPath newPath).1.view, (ramdiskRename s oldPath newPath).2) =
        s.view.rename oldPath newPath := by
  unfold ramdiskRename ByteFiles.rename
  cases ramdiskExtractName oldPath with
  | none => exact ⟨hs, rfl⟩
  | some old =>
    cases ramdiskExtractName newPath with
    | none => exact ⟨hs, rfl⟩
    | some new =>
      dsimp only
      cases hfind : ramdiskFindEntry s old with
      | none =>
        have hnone : s.view.contents old = none := contents_eq_none hfind
        rw [hnone]
        exact ⟨hs, rfl⟩
      | some i =>
        obtain ⟨hu, hname⟩ := used_of_findEntry hfind
        have hsome : s.view.contents old = some (s.files i).bytes := contents_of_findEntry hfind
        rw [hsome]
        dsimp only
        cases hnew : ramdiskFindEntry s new with
        | none =>
          have hnone : s.view.contents new = none := contents_eq_none hnew
          rw [if_neg fun h => h.1 hnone]
          obtain ⟨hcons, hview⟩ := rename_spec hs hfind
            (fun j _ huj => ne_of_findEntry hnew huj) rfl
          exact ⟨hcons, by rw [hview]⟩
        | some j =>
          obtain ⟨huj, hnamej⟩ := used_of_findEntry hnew
          have hsomej : s.view.contents new = some (s.files j).bytes := contents_of_findEntry hnew
          have hne : j ≠ i ↔ s.view.contents new ≠ none ∧ new ≠ old := by
            rw [hsomej]
            constructor
            · intro hji
              refine ⟨by simp, fun heq => hji ?_⟩
              exact hs.names j i huj hu (by rw [hnamej, heq, hname])
            · rintro ⟨-, hnn⟩ rfl
              exact hnn (hnamej.symm.trans hname)
          dsimp only
          by_cases hji : j ≠ i
          · rw [if_pos hji, if_pos (hne.1 hji)]
            exact ⟨hs, rfl⟩
          · rw [if_neg hji, if_neg fun h => hji (hne.2 h)]
            rw [not_not] at hji
            subst hji
            obtain ⟨hcons, hview⟩ := rename_spec hs hfind
              (fun k hk huk hnk => hk (hs.names k j huk huj (hnk.trans hnamej.symm))) rfl
            exact ⟨hcons, by rw [hview]⟩

omit hs in
lemma bytes_cut {size : Nat} (h : size ≤ f.size) :
    ({ f with size := size } : RamdiskFile).bytes = cutTo f.bytes size := by
  have hlen : f.bytes.length = f.size := Bytes.length_slice _ _ _
  rw [cutTo, hlen, Nat.sub_eq_zero_of_le h, List.replicate_zero, List.append_nil,
    RamdiskFile.bytes, RamdiskFile.bytes, Bytes.slice_take, Nat.min_eq_left h]

lemma resize_spec (hu : (s.files i).used = true) {size : Nat} (hsize : size ≤ 8192) :
    (s.touch i { s.files i with size := size }).Consistent ∧ (size ≤ (s.files i).size →
      (s.touch i { s.files i with size := size }).view =
        s.view.setContents (s.files i).name (some (cutTo (s.files i).bytes size))) := by
  obtain ⟨hcons, hview⟩ := hs.touch_same (f := { s.files i with size := size }) hu hu rfl hsize
  refine ⟨hcons, fun hle => ?_⟩
  rw [hview, bytes_cut hle]

lemma clampHandles_spec (hfind : ramdiskFindEntry s nm = some i) {size : Nat}
    (hsize : size ≤ 8192) :
    (s.clampHandles i size).Consistent ∧ (s.clampHandles i size).view =
      { s.view with
        handles := fun h => (s.view.handles h).map fun f =>
          if f.name = nm then { f with pos := min f.pos size } else f } := by
  have hopen : ∀ h, (s.clampHandles i size).IsOpen h ↔ s.IsOpen h := by
    intro h
    simp only [IsOpen, clampHandles]
    split_ifs <;> rfl
  have hentry : ∀ h, ((s.clampHandles i size).handles h).entryIdx = (s.handles h).entryIdx := by
    intro h
    simp only [clampHandles]
    split_ifs <;> rfl
  have hflags : ∀ h, ((s.clampHandles i size).handles h).flags = (s.handles h).flags := by
    intro h
    simp only [clampHandles]
    split_ifs <;> rfl
  have hpos : ∀ h, s.IsOpen h → ((s.clampHandles i size).handles h).pos =
      if (s.handles h).entryIdx = i then min (s.handles h).pos size else (s.handles h).pos := by
    intro h ho
    simp only [clampHandles, ho.1, ho.2, true_and]
    by_cases hi : (s.handles h).entryIdx = i
    · simp only [hi, true_and, if_true]
      split_ifs with hlt
      · exact (Nat.min_eq_right hlt.le).symm
      · exact (Nat.min_eq_left (not_lt.1 hlt)).symm
    · simp only [hi, false_and, if_false]
  constructor
  · refine ⟨hs.names, fun h ho => ?_, hs.size_le, fun h ho => ?_⟩
    · rw [hentry]
      exact hs.entry_used h ((hopen h).1 ho)
    · rw [hpos h ((hopen h).1 ho)]
      have := hs.pos_le h ((hopen h).1 ho)
      split_ifs <;> omega
  · have hopenFile : (s.clampHandles i size).openFile = fun h => (s.openFile h).map fun f =>
        if f.name = nm then { f with pos := min f.pos size } else f := by
      funext h
      by_cases ho : s.IsOpen h
      · rw [openFile_of_isOpen ho, openFile_of_isOpen ((hopen h).2 ho), Option.map_some, hentry,
          hflags, hpos h ho]
        by_cases hi : (s.handles h).entryIdx = i
        · rw [if_pos hi, if_pos ((name_eq_iff hs ho hfind).2 hi)]
          rfl
        · rw [if_neg hi, if_neg fun hnm => hi ((name_eq_iff hs ho hfind).1 hnm)]
          rfl
      · rw [openFile_of_not ho, openFile_of_not fun h' => ho ((hopen h).1 h')]
        rfl
    rw [view, hopenFile]
    rfl

lemma truncate_view (path : CString) (size : Nat) :
    (ramdiskTruncate s path size).1.Consistent ∧ (s.Covers (.truncate path size) →
      ((ramdiskTruncate s path size).1.view, (ramdiskTruncate s path size).2) =
        s.view.truncate path size) := by
  unfold ramdiskTruncate ByteFiles.truncate
  cases hpath : ramdiskExtractName path with
  | none => exact ⟨hs, fun _ => rfl⟩
  | some nm =>
    dsimp only
    cases hfind : ramdiskFindEntry s nm with
    | none =>
      have hnone : s.view.contents nm = none := contents_eq_none hfind
      rw [hnone]
      exact ⟨hs, fun _ => rfl⟩
    | some i =>
      obtain ⟨hu, hname⟩ := used_of_findEntry hfind
      have hsome : s.view.contents nm = some (s.files i).bytes := contents_of_findEntry hfind
      have hsize : min size ramdiskFileCapacity ≤ 8192 := Nat.min_le_right _ _
      obtain ⟨hcons, hview⟩ := resize_spec hs hu hsize
      have hfind' : ramdiskFindEntry
          (s.touch i { s.files i with size := min size ramdiskFileCapacity }) nm = some i := by
        apply findEntry_of_used hcons.names
        · simpa [touch, setFile] using hu
        · simpa [touch, setFile] using hname
      obtain ⟨hcons', hview'⟩ := clampHandles_spec hcons hfind' hsize
      rw [hsome]
      refine ⟨hcons', fun hcov => ?_⟩
      rw [hview', hview (hcov nm i hpath hfind), hname]
      rfl

lemma ftruncate_view (h size : Nat) :
    (ramdiskFtruncate s h size).1.Consistent ∧ (s.Covers (.ftruncate h size) →
      ((ramdiskFtruncate s h size).1.view, (ramdiskFtruncate s h size).2) =
        s.view.ftruncate h size) := by
  unfold ramdiskFtruncate ByteFiles.ftruncate
  by_cases ho : s.IsOpen h
  · have hu := hs.entry_used h ho
    have hsize : min size ramdiskFileCapacity ≤ 8192 := Nat.min_le_right _ _
    have hmin : ∀ a b : Nat, (if a > b then b else a) = min a b := by
      intro a b
      split_ifs <;> omega
    rw [if_neg (not_not.2 ho), view_handles_of_isOpen ho]
    dsimp only
    rw [hmin, view_bytes hs.names hu]
    obtain ⟨hcons, hview⟩ := move_spec hs ho
      (p := min (s.handles h).pos (min size ramdiskFileCapacity)) (by omega)
    obtain ⟨hcons', hview'⟩ := resize_spec (i := (s.handles h).entryIdx) hcons hu hsize
    refine ⟨hcons', fun hcov => ?_⟩
    have hcut := hview' (hcov ho)
    rw [hview] at hcut
    exact congrArg (·, Except.ok 0) hcut
  · rw [if_pos ho, view_handles_of_not ho]
    exact ⟨hs, fun _ => rfl⟩

lemma step_consistent (op : RamdiskOp) : (ramdiskStep s op).1.Consistent := by
  cases op with
  | openFile path flags => exact (open_view hs path flags).1
  | read h size => exact (read_view hs h size).1
  | write h buf => exact (write_view hs h buf).1
  | close h => exact (close_view hs h).1
  | lseek h offset whence => exact (lseek_view hs h offset whence).1
  | delete path => exact (delete_view hs path).1
  | rename oldPath newPath => exact (rename_view hs oldPath newPath).1
  | truncate path size => exact (truncate_view hs path size).1
  | ftruncate h size => exact (ftruncate_view hs h size).1

lemma step_view {op : RamdiskOp} (hcov : s.Covers op) :
    ((ramdiskStep s op).1.view, (ramdiskStep s op).2) = s.view.step op := by
  cases op with
  | openFile path flags =>
    exact congrArg (Prod.map id RamdiskAnswer.number) (open_view hs path flags).2
  | read h size =>
    exact congrArg (Prod.map id RamdiskAnswer.bytes) (read_view hs h size).2
  | write h buf =>
    exact congrArg (Prod.map id RamdiskAnswer.number) ((write_view hs h buf).2 hcov)
  | close h =>
    exact congrArg (Prod.map id RamdiskAnswer.number) (close_view hs h).2
  | lseek h offset whence =>
    exact congrArg (Prod.map id RamdiskAnswer.number) (lseek_view hs h offset whence).2
  | delete path =>
    exact congrArg (Prod.map id RamdiskAnswer.number) (delete_view hs path).2
  | rename oldPath newPath =>
    exact congrArg (Prod.map id RamdiskAnswer.number) (rename_view hs oldPath newPath).2
  | truncate path size =>
    exact congrArg (Prod.map id RamdiskAnswer.number) ((truncate_view hs path size).2 hcov)
  | ftruncate h size =>
    exact congrArg (Prod.map id RamdiskAnswer.number) ((ftruncate_view hs h size).2 hcov)

end

/-- Calls that show only what they write make the RAM disk a set of independent byte files. -/
theorem refines_byteFiles : Machine.Refines Covers ramdiskStep Consistent view ByteFiles.step where
  inv _ op hs _ := step_consistent hs op
  state _ _ hs hcov := congrArg Prod.fst (step_view hs hcov)
  output _ _ hs hcov := congrArg Prod.snd (step_view hs hcov)

lemma init_consistent (s : Ramdisk) : s.init.Consistent where
  names i j hi := by cases hi
  entry_used h ho := by cases ho.2
  size_le _ := Nat.zero_le _
  pos_le _ _ := Nat.zero_le _

end Ramdisk

end NeuroSpark
