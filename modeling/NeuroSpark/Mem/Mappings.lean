import NeuroSpark.Mem.Spaces
import NeuroSpark.Mem.UserRanges

/-!
# Anonymous mappings

`SYS_MMAP`, `SYS_MUNMAP` and `SYS_MPROTECT`, as a task calls them on its own address space. The
length is rounded up to whole pages in 32 bits, so that one of the last page of lengths becomes 0:
such a call maps nothing and still succeeds.
-/

namespace NeuroSpark

variable {base mapped : BitVec 32}

def mmapAnonBase : BitVec 32 := 0x50000000
def mmapAnonLimit : BitVec 32 := 0xB0000000
def brkDefaultBaseAddr : BitVec 32 := 0x48000000
def brkDefaultLimit : BitVec 32 := 0x4F000000
def protWrite : BitVec 32 := 0x2

/-- `NS_OK`, `NS_ERR_BAD_POINTER` and `VFS_ERR_NO_SPACE` as words. -/
def okWord : BitVec 32 := 0
def errBadPointer : BitVec 32 := -2
def errNoSpace : BitVec 32 := -3

/-- What these calls work on: physical memory, the `page_dir` of the task, and its entries in
`task_brk_base`, `task_brk_current` and `task_mmap_next`. -/
structure TaskMemory where
  paging : Paging
  pageDir : BitVec 32
  taskBrkBase : BitVec 32
  taskBrkCurrent : BitVec 32
  taskMmapNext : BitVec 32

def ensureTaskIdentityDefaults (m : TaskMemory) : TaskMemory :=
  if m.taskBrkBase = 0 then
    { m with
      taskBrkBase := brkDefaultBaseAddr
      taskBrkCurrent := brkDefaultBaseAddr
      taskMmapNext := mmapAnonBase }
  else m

/-- Where the mapping goes. -/
def mmapBase (m : TaskMemory) (addr : BitVec 32) : BitVec 32 :=
  if addr = 0 then alignUpPage m.taskMmapNext else pageFloor addr

/-- The check of `SYS_MMAP` and `SYS_MUNMAP`. -/
def OutsideMmapArea (base mapped : BitVec 32) : Prop :=
  base < mmapAnonBase ∨ mmapAnonLimit < base + mapped ∨ base + mapped < base

instance (base mapped : BitVec 32) : Decidable (OutsideMmapArea base mapped) :=
  inferInstanceAs (Decidable (_ ∨ _))

def sysMmap (m : TaskMemory) (addr len prot : BitVec 32) : TaskMemory × BitVec 32 :=
  let m := ensureTaskIdentityDefaults m
  if len = 0 then (m, errBadPointer)
  else
    let mapped := alignUpPage len
    let base := mmapBase m addr
    if OutsideMmapArea base mapped then (m, errBadPointer)
    else
      let r := mapUserPagesForRange m.paging m.pageDir base mapped
      if r.2 = false then ({ m with paging := r.1 }, errNoSpace)
      else
        let w := setUserWritableForRange r.1 m.pageDir base mapped (prot &&& protWrite ≠ 0)
        if w.2 = false then ({ m with paging := w.1 }, errBadPointer)
        else
          let next := if addr = 0 then base + mapped else m.taskMmapNext
          ({ m with paging := w.1, taskMmapNext := next }, base)

def sysMunmap (m : TaskMemory) (addr len : BitVec 32) : TaskMemory × BitVec 32 :=
  if len = 0 then (m, errBadPointer)
  else
    let base := pageFloor addr
    let mapped := alignUpPage len
    if OutsideMmapArea base mapped then (m, errBadPointer)
    else
      let r := unmapUserPagesForRange m.paging m.pageDir base mapped
      ({ m with paging := r.1 }, if r.2 then okWord else errBadPointer)

def sysMprotect (m : TaskMemory) (addr len prot : BitVec 32) : TaskMemory × BitVec 32 :=
  if len = 0 then (m, errBadPointer)
  else
    let base := pageFloor addr
    let mapped := alignUpPage len
    let w := setUserWritableForRange m.paging m.pageDir base mapped (prot &&& protWrite ≠ 0)
    ({ m with paging := w.1 }, if w.2 then okWord else errBadPointer)

lemma toNat_pageFloor (value : BitVec 32) :
    (pageFloor value).toNat = value.toNat / pageSize * pageSize := by
  rw [pageFloor, toNat_and_pageMask, frameOf_eq_pageNo, pageNo]

lemma toNat_alignUpPage (value : BitVec 32) :
    (alignUpPage value).toNat = (value.toNat + 4095) % 2 ^ 32 / pageSize * pageSize := by
  rw [alignUpPage, toNat_and_pageMask, frameOf_eq_pageNo, pageNo, BitVec.toNat_add]
  rfl

lemma mmapBase_aligned (m : TaskMemory) (addr : BitVec 32) :
    (mmapBase m addr).toNat % pageSize = 0 := by
  unfold mmapBase
  split_ifs
  · rw [toNat_alignUpPage]
    exact Nat.mul_mod_left ..
  · rw [toNat_pageFloor]
    exact Nat.mul_mod_left ..

/-- Lengths that can be rounded up. -/
def Roundable (len : BitVec 32) : Prop := len.toNat ≤ 0xFFFFF000

instance (len : BitVec 32) : Decidable (Roundable len) := inferInstanceAs (Decidable (_ ≤ _))

lemma alignUpPage_of_roundable {len : BitVec 32} (h : Roundable len) :
    (alignUpPage len).toNat = (len.toNat + 4095) / pageSize * pageSize := by
  unfold Roundable at h
  rw [toNat_alignUpPage, Nat.mod_eq_of_lt (by omega)]

lemma alignUpPage_of_not_roundable {len : BitVec 32} (h : ¬ Roundable len) :
    alignUpPage len = 0 := by
  unfold Roundable at h
  apply BitVec.eq_of_toNat_eq
  rw [toNat_alignUpPage]
  unfold pageSize
  change _ = 0
  omega

lemma not_outsideMmapArea (h : ¬ OutsideMmapArea base mapped) :
    0x50000000 ≤ base.toNat ∧ base.toNat + mapped.toNat ≤ 0xB0000000 := by
  simp only [OutsideMmapArea, not_or, BitVec.lt_def, BitVec.toNat_add] at h
  have hmin : mmapAnonBase.toNat = 0x50000000 := rfl
  have hmax : mmapAnonLimit.toNat = 0xB0000000 := rfl
  omega

lemma inRange_iff (hbase : base.toNat % pageSize = 0) (hmapped : mapped.toNat % pageSize = 0)
    (hfits : base.toNat + mapped.toNat < 2 ^ 32) (n : Nat) :
    InRange base mapped n ↔
      base.toNat ≤ n * pageSize ∧ n * pageSize < base.toNat + mapped.toNat := by
  have hzero : mapped = 0 ↔ mapped.toNat = 0 := by
    rw [← BitVec.toNat_inj]
    rfl
  have hlast : mapped.toNat ≠ 0 →
      (base + mapped - 1).toNat = base.toNat + mapped.toNat - 1 := by
    intro hne
    rw [BitVec.toNat_sub, BitVec.toNat_add]
    change (4294967295 + _) % _ = _
    omega
  unfold InRange pageNo
  rw [ne_eq, hzero]
  by_cases hne : mapped.toNat = 0
  · omega
  · unfold pageSize at *
    omega

lemma pageNo_le_last (hmapped : mapped ≠ 0)
    (hfits : base.toNat + mapped.toNat < 2 ^ 32) : pageNo base ≤ pageNo (base + mapped - 1) := by
  have hpos : mapped.toNat ≠ 0 := fun h => hmapped (BitVec.eq_of_toNat_eq h)
  have hlast : (base + mapped - 1).toNat = base.toNat + mapped.toNat - 1 := by
    rw [BitVec.toNat_sub, BitVec.toNat_add]
    change (4294967295 + _) % _ = _
    omega
  exact Nat.div_le_div_right (by omega)

/-- The address space of the task is accounted for, with `background` in use besides it. -/
structure TaskMemory.Sound (background : Pmm) (m : TaskMemory) : Prop where
  low : ∀ page < 256, background.Used page
  dir : m.pageDir &&& pageMask ≠ 0
  space : m.paging.Sound background (frameOf m.pageDir)

/-- The entry of a page of the task. -/
def TaskMemory.userPte (m : TaskMemory) (n : Nat) : Option (BitVec 32) :=
  m.paging.userPte (frameOf m.pageDir) n

/-- `m'` is `m` after a call that may have changed what `Paging.Changes` allows. -/
structure TaskMemory.Changes (background : Pmm) (touched lost : Nat → Prop) (m m' : TaskMemory) :
    Prop where
  pageDir : m'.pageDir = m.pageDir
  paging : m.paging.Changes background (frameOf m.pageDir) touched lost m'.paging

section

variable {background : Pmm} {m m' : TaskMemory} {touched lost : Nat → Prop}

lemma TaskMemory.Changes.sound (h : m.Changes background touched lost m')
    (hm : m.Sound background) : m'.Sound background := by
  refine ⟨hm.low, ?_, ?_⟩
  · rw [h.pageDir]
    exact hm.dir
  · rw [h.pageDir]
    exact h.paging.sound

lemma TaskMemory.Sound.refl (hm : m.Sound background) : m.Changes background touched lost m :=
  ⟨rfl, Paging.Changes.refl hm.space⟩

lemma ensureTaskIdentityDefaults_paging (m : TaskMemory) :
    (ensureTaskIdentityDefaults m).paging = m.paging ∧
      (ensureTaskIdentityDefaults m).pageDir = m.pageDir := by
  unfold ensureTaskIdentityDefaults
  split_ifs <;> exact ⟨rfl, rfl⟩

lemma alignUpPage_aligned (value : BitVec 32) : (alignUpPage value).toNat % pageSize = 0 := by
  rw [toNat_alignUpPage]
  exact Nat.mul_mod_left ..

lemma userPage_of_inRange {base len : BitVec 32} (h : ¬ OutsideMmapArea base (alignUpPage len))
    (hbase : base.toNat % pageSize = 0) {n : Nat} (hn : InRange base (alignUpPage len) n) :
    UserPage n := by
  obtain ⟨hmin, hmax⟩ := not_outsideMmapArea h
  rw [inRange_iff hbase (alignUpPage_aligned len) (by omega)] at hn
  unfold UserPage
  unfold pageSize at hn
  omega

/-- A call of `SYS_MMAP` is refused, runs out of memory on the way, or maps its range. -/
lemma sysMmap_cases (hm : m.Sound background) (addr len prot : BitVec 32) :
    m.Changes background (InRange (mmapBase (ensureTaskIdentityDefaults m) addr) (alignUpPage len))
        (fun _ => False) (sysMmap m addr len prot).1 ∧
      ((sysMmap m addr len prot).2 = errBadPointer ∧
          (sysMmap m addr len prot).1 = ensureTaskIdentityDefaults m ∨
        (sysMmap m addr len prot).2 = errNoSpace ∧
          ¬ OutsideMmapArea (mmapBase (ensureTaskIdentityDefaults m) addr) (alignUpPage len) ∧
          mapUserPagesForRange m.paging m.pageDir (mmapBase (ensureTaskIdentityDefaults m) addr)
            (alignUpPage len) = ((sysMmap m addr len prot).1.paging, false) ∧
          (sysMmap m addr len prot).1 =
            { ensureTaskIdentityDefaults m with paging := (sysMmap m addr len prot).1.paging } ∨
        (sysMmap m addr len prot).2 = mmapBase (ensureTaskIdentityDefaults m) addr ∧
          ¬ OutsideMmapArea (mmapBase (ensureTaskIdentityDefaults m) addr) (alignUpPage len) ∧
          (sysMmap m addr len prot).1 =
            { ensureTaskIdentityDefaults m with
              paging := (sysMmap m addr len prot).1.paging
              taskMmapNext := if addr = 0 then
                  mmapBase (ensureTaskIdentityDefaults m) addr + alignUpPage len
                else (ensureTaskIdentityDefaults m).taskMmapNext } ∧
          ∀ n, InRange (mmapBase (ensureTaskIdentityDefaults m) addr) (alignUpPage len) n → ∃ e,
            (sysMmap m addr len prot).1.userPte n = some e ∧
              (e &&& pageRw ≠ 0 ↔ prot &&& protWrite ≠ 0)) := by
  unfold sysMmap
  obtain ⟨hpaging, hdir⟩ := ensureTaskIdentityDefaults_paging m
  set M := ensureTaskIdentityDefaults m
  have hrefl : m.Changes background (InRange (mmapBase M addr) (alignUpPage len)) (fun _ => False)
      M := ⟨hdir, by rw [hpaging]; exact Paging.Changes.refl hm.space⟩
  dsimp only
  by_cases hlen : len = 0
  · rw [if_pos hlen]
    exact ⟨hrefl, Or.inl ⟨rfl, rfl⟩⟩
  rw [if_neg hlen]
  by_cases hout : OutsideMmapArea (mmapBase M addr) (alignUpPage len)
  · rw [if_pos hout]
    exact ⟨hrefl, Or.inl ⟨rfl, rfl⟩⟩
  rw [if_neg hout, hpaging, hdir]
  have hmapped := mapUserPagesForRange_spec (mmapBase M addr) (alignUpPage len)
    hm.space hm.low hm.dir rfl fun n hn => userPage_of_inRange hout (mmapBase_aligned M addr) hn
  set r := mapUserPagesForRange m.paging m.pageDir (mmapBase M addr) (alignUpPage len) with hr
  by_cases hmap : r.2 = false
  · rw [if_pos hmap]
    refine ⟨⟨rfl, hmapped.1⟩, Or.inr (Or.inl ⟨rfl, hout, ?_, ?_⟩)⟩
    · rw [← hmap]
    · rfl
  rw [if_neg hmap]
  have hwritten := setUserWritableForRange_spec (mmapBase M addr) (alignUpPage len)
    hmapped.1.sound hm.dir rfl (decide (prot &&& protWrite ≠ 0))
  set w := setUserWritableForRange r.1 m.pageDir (mmapBase M addr) (alignUpPage len)
    (decide (prot &&& protWrite ≠ 0))
  -- all pages are mapped, so that the flag can be set on each of them
  have hset : w.2 = true := by
    by_contra hset
    obtain ⟨n, hn, hnone⟩ := hwritten.2.2 (by simpa using hset)
    have hsome := hmapped.2 (by simpa using hmap) n hn
    rw [hnone] at hsome
    cases hsome
  rw [if_neg (by simp [hset])]
  refine ⟨⟨rfl, hmapped.1.trans hwritten.1⟩, Or.inr (Or.inr ⟨rfl, hout, rfl, fun n hn => ?_⟩)⟩
  obtain ⟨e, -, he⟩ := hwritten.2.1 hset n hn
  exact ⟨_, he, (withWritable_rw e _).trans decide_eq_true_iff⟩

/-- What a call of `SYS_MMAP` that returns `base` should have done. -/
structure RangeMapped (background : Pmm) (m m' : TaskMemory) (base len prot : BitVec 32) :
    Prop where
  aligned : base.toNat % pageSize = 0
  bytes : ∀ a, base.toNat ≤ a → a < base.toNat + len.toNat →
    mmapAnonBase.toNat ≤ a ∧ a < mmapAnonLimit.toNat ∧ ∃ e, m'.userPte (a / pageSize) = some e ∧
      (e &&& pageRw ≠ 0 ↔ prot &&& protWrite ≠ 0)
  others : ∀ n < 1048576, n * pageSize < base.toNat ∨ base.toNat + len.toNat ≤ n * pageSize →
    m'.userPte n = m.userPte n ∧ ∀ e, m.userPte n = some e →
      m'.paging.memory (frameOf e) = m.paging.memory (frameOf e)
  kernel : ∀ i, ¬ UserIndex i →
    m'.paging.memory (frameOf m'.pageDir) i = m.paging.memory (frameOf m.pageDir) i
  spaces : m.paging.SameOn background.Used m'.paging

lemma TaskMemory.Changes.contents (h : m.Changes background touched (fun _ => False) m') {n : Nat}
    (hn : n < 1048576) {e : BitVec 32} (he : m.userPte n = some e) :
    m'.paging.memory (frameOf e) = m.paging.memory (frameOf e) := by
  obtain ⟨e', -, -, hmem⟩ := h.paging.kept n hn (fun h => h) e he
  exact hmem

lemma TaskMemory.Changes.outside (h : m.Changes background touched lost m') {n : Nat}
    (hn : n < 1048576) (hout : ¬ touched n) : m'.userPte n = m.userPte n := by
  rw [TaskMemory.userPte, h.pageDir]
  exact h.paging.outside n hn hout

/-- `SYS_MMAP` returned a base, not one of its two errors. -/
def MmapSucceeds (result : BitVec 32) : Prop := result ≠ errBadPointer ∧ result ≠ errNoSpace

instance (result : BitVec 32) : Decidable (MmapSucceeds result) :=
  inferInstanceAs (Decidable (_ ∧ _))

lemma sysMmap_of_zero {addr len : BitVec 32} (prot : BitVec 32) (hlen : ¬ Roundable len)
    (hmin : ¬ mmapBase (ensureTaskIdentityDefaults m) addr < mmapAnonBase)
    (hmax : ¬ mmapAnonLimit < mmapBase (ensureTaskIdentityDefaults m) addr) :
    (sysMmap m addr len prot).2 = mmapBase (ensureTaskIdentityDefaults m) addr := by
  have hzero := alignUpPage_of_not_roundable hlen
  have hne : len ≠ 0 := by
    rintro rfl
    exact hlen (by decide)
  have hout : ¬ OutsideMmapArea (mmapBase (ensureTaskIdentityDefaults m) addr) 0 := by
    simp only [OutsideMmapArea, BitVec.ofNat_eq_ofNat, BitVec.add_zero]
    exact not_or.2 ⟨hmin, not_or.2 ⟨hmax, BitVec.lt_irrefl _⟩⟩
  simp only [sysMmap, if_neg hne, hzero, if_neg hout, mapUserPagesForRange, setUserWritableForRange,
    forUserPages_zero, Bool.true_eq_false, if_false]

/-- A call that succeeds has mapped its range unless the length became 0 by rounding: then it has
not, whenever the base lets it succeed. -/
theorem sysMmap_mapped_iff (hm : m.Sound background) (addr len prot : BitVec 32) :
    (MmapSucceeds (sysMmap m addr len prot).2 → RangeMapped background m (sysMmap m addr len prot).1
        (sysMmap m addr len prot).2 len prot) ↔
      Roundable len ∨ mmapBase (ensureTaskIdentityDefaults m) addr < mmapAnonBase ∨
        mmapAnonLimit < mmapBase (ensureTaskIdentityDefaults m) addr := by
  obtain ⟨hchanges, hresult⟩ := sysMmap_cases hm addr len prot
  have haligned := mmapBase_aligned (ensureTaskIdentityDefaults m) addr
  set base := mmapBase (ensureTaskIdentityDefaults m) addr with hbase
  constructor
  · intro h
    by_contra hcond
    simp only [not_or] at hcond
    obtain ⟨hround, hmin, hmax⟩ := hcond
    rw [sysMmap_of_zero prot hround hmin hmax] at h
    simp only [BitVec.lt_def, not_lt] at hmin hmax
    have hmin' : mmapAnonBase.toNat = 0x50000000 := rfl
    have hmax' : mmapAnonLimit.toNat = 0xB0000000 := rfl
    have hmapped := h ⟨fun hbad => ?_, fun hbad => ?_⟩
    -- the byte at the end of the area is said to be mapped
    · obtain ⟨-, hlt, -⟩ := hmapped.bytes mmapAnonLimit.toNat hmax
        (by unfold Roundable at hround; omega)
      exact absurd hlt (lt_irrefl _)
    · rw [hbase, hbad] at hmax
      exact absurd hmax (by decide)
    · rw [hbase, hbad] at hmax
      exact absurd hmax (by decide)
  · intro hcond hok
    obtain ⟨hbaseEq, hout, -, hpages⟩ :=
      (hresult.resolve_left fun h => hok.1 h.1).resolve_left fun h => hok.2 h.1
    obtain ⟨hmin, hmax⟩ := not_outsideMmapArea hout
    have hround : Roundable len := by
      refine hcond.resolve_right (not_or.2 ⟨fun h => hout (Or.inl h), fun h => ?_⟩)
      have h : 0xB0000000 < base.toNat := h
      omega
    have hlen := alignUpPage_of_roundable hround
    have hrange := inRange_iff haligned (alignUpPage_aligned len) (by omega)
    rw [hbaseEq]
    refine ⟨haligned, fun a ha ha' => ?_, fun n hn hout' => ?_, fun i hi => ?_,
      hchanges.paging.same⟩
    · have hin : InRange base (alignUpPage len) (a / pageSize) := by
        rw [hrange, hlen]
        unfold pageSize at *
        omega
      rw [hrange] at hin
      have hmin' : mmapAnonBase.toNat = 0x50000000 := rfl
      have hmax' : mmapAnonLimit.toNat = 0xB0000000 := rfl
      refine ⟨by omega, ?_, hpages _ ((hrange _).2 hin)⟩
      unfold pageSize at *
      omega
    · refine ⟨hchanges.outside hn ?_, fun e he => hchanges.contents hn he⟩
      rw [hrange, hlen]
      unfold pageSize at *
      omega
    · rw [hchanges.pageDir]
      exact hchanges.paging.kernel i hi

end

/-- The pages below 2 MB are in use. -/
def below2MB : Pmm := fun i => if i < 64 then 0xFF else 0

/-- A task that has not mapped anything yet. -/
def freshTask : TaskMemory where
  paging := ⟨pmmSetPage below2MB (512 * pageSize), fun _ _ => 0⟩
  pageDir := 0x200000
  taskBrkBase := 0
  taskBrkCurrent := 0
  taskMmapNext := 0

lemma freshTask_sound : freshTask.Sound below2MB := by
  refine ⟨by decide +kernel, by decide, ?_⟩
  exact (Paging.sound_empty (by decide) (by decide) (fun _ _ => BitVec.zero_and)
    fun _ => BitVec.zero_and).1

/-- With a length that the rounding turns into 0 nothing is mapped, and the call succeeds. -/
theorem sysMmap_not_mapped :
    MmapSucceeds (sysMmap freshTask 0 0xFFFFFFFF 3).2 ∧
      ¬ RangeMapped below2MB freshTask (sysMmap freshTask 0 0xFFFFFFFF 3).1
        (sysMmap freshTask 0 0xFFFFFFFF 3).2 0xFFFFFFFF 3 := by
  have hok : (sysMmap freshTask 0 0xFFFFFFFF 3).2 = 0x50000000 :=
    sysMmap_of_zero 3 (by decide) (by decide) (by decide)
  rw [hok]
  refine ⟨by decide, fun h => ?_⟩
  obtain ⟨-, hlt, -⟩ := h.bytes 0xB0000000 (by decide) (by decide)
  exact absurd hlt (by decide)

/-- A new task maps one page. -/
theorem sysMmap_mapped_iff_fresh :
    freshTask.Sound below2MB ∧
      (MmapSucceeds (sysMmap freshTask 0 0x1000 3).2 →
        RangeMapped below2MB freshTask (sysMmap freshTask 0 0x1000 3).1
          (sysMmap freshTask 0 0x1000 3).2 0x1000 3) :=
  ⟨freshTask_sound, (sysMmap_mapped_iff freshTask_sound 0 0x1000 3).2 (Or.inl (by decide))⟩

end NeuroSpark
