import NeuroSpark.Mem.Mappings

/-!
# Where the kernel puts mappings

With address 0 the kernel chooses where a mapping goes: at `task_mmap_next`, which only such calls
move. Nothing is mapped from there on as long as all other mappings stay below, and as long as no
call runs out of memory when some of its pages are mapped: these stay, and `task_mmap_next` does not
move.
-/

namespace NeuroSpark

inductive MmapCall where
  | mmap (addr len prot : BitVec 32)
  | munmap (addr len : BitVec 32)
  | mprotect (addr len prot : BitVec 32)

def mmapStep (m : TaskMemory) : MmapCall → TaskMemory × BitVec 32
  | .mmap addr len prot => sysMmap m addr len prot
  | .munmap addr len => sysMunmap m addr len
  | .mprotect addr len prot => sysMprotect m addr len prot

/-- A successful call that left the place to the kernel got pages that were not mapped, and what is
mapped is as it was. -/
def FreshMapping (m : TaskMemory) : MmapCall → Prop
  | .mmap addr len prot => addr = 0 → MmapSucceeds (sysMmap m addr len prot).2 →
      (∀ a, (sysMmap m addr len prot).2.toNat ≤ a →
        a < (sysMmap m addr len prot).2.toNat + len.toNat → m.userPte (a / pageSize) = none) ∧
      ∀ n < 1048576, ∀ e, m.userPte n = some e →
        (sysMmap m addr len prot).1.userPte n = some e ∧
        (sysMmap m addr len prot).1.paging.memory (frameOf e) = m.paging.memory (frameOf e)
  | _ => True

/-- Where the kernel would put the next mapping. -/
def nextMapping (m : TaskMemory) : BitVec 32 := mmapBase (ensureTaskIdentityDefaults m) 0

/-- Memory suffices for all pages of a mapping, or not even for the first. -/
def AllOrNothing (m : TaskMemory) (base mapped : BitVec 32) : Prop :=
  m.paging.rangeCost (frameOf m.pageDir) (pageNo base) (pageNo (base + mapped - 1)) ≤
      m.paging.memoryBitmap.freePages.card ∨
    m.paging.memoryBitmap.freePages.card < m.paging.pageCost (frameOf m.pageDir) (pageNo base)

/-- The call is refused by the checks before it maps anything. -/
def MmapRefused (base len : BitVec 32) : Prop := len = 0 ∨ OutsideMmapArea base (alignUpPage len)

/-- A mapping at a fixed address stays below the place for the next one. A mapping at this place has
a length that can be rounded up, and memory does not run short on the way. -/
def StaysBelow (m : TaskMemory) : MmapCall → Prop
  | .mmap addr len _ =>
      if addr = 0 then
        MmapRefused (nextMapping m) len ∨
          Roundable len ∧ AllOrNothing m (nextMapping m) (alignUpPage len)
      else
        MmapRefused (pageFloor addr) len ∨ alignUpPage len = 0 ∨
          (pageFloor addr).toNat + (alignUpPage len).toNat ≤ (nextMapping m).toNat
  | _ => True

/-- Nothing is mapped from the place for the next mapping to the end of the area. -/
def NothingAbove (m : TaskMemory) : Prop :=
  ∀ n, (nextMapping m).toNat ≤ n * pageSize → n * pageSize < mmapAnonLimit.toNat →
    m.userPte n = none

section

variable {background : Pmm} {m m' : TaskMemory}

lemma taskBrkBase_ensure (m : TaskMemory) : (ensureTaskIdentityDefaults m).taskBrkBase ≠ 0 := by
  unfold ensureTaskIdentityDefaults
  split_ifs with h
  · change brkDefaultBaseAddr ≠ 0
    decide
  · exact h

lemma nextMapping_of_ne_zero (h : m.taskBrkBase ≠ 0) :
    nextMapping m = alignUpPage m.taskMmapNext := by
  rw [nextMapping, ensureTaskIdentityDefaults, if_neg h, mmapBase, if_pos rfl]

lemma nextMapping_ensure (m : TaskMemory) :
    nextMapping (ensureTaskIdentityDefaults m) = nextMapping m :=
  nextMapping_of_ne_zero (taskBrkBase_ensure m)

lemma nextMapping_paging (m : TaskMemory) (s : Paging) :
    nextMapping { m with paging := s } = nextMapping m := by
  unfold nextMapping ensureTaskIdentityDefaults mmapBase
  split_ifs <;> rfl

lemma sysMunmap_none (hm : m.Sound background) (addr len : BitVec 32) :
    (sysMunmap m addr len).1.Sound background ∧
      nextMapping (sysMunmap m addr len).1 = nextMapping m ∧
      ∀ n < 1048576, m.userPte n = none → (sysMunmap m addr len).1.userPte n = none := by
  have hspec := unmapUserPagesForRange_spec (pageFloor addr) (alignUpPage len)
    hm.space hm.low hm.dir rfl
  unfold sysMunmap
  dsimp only
  split
  · exact ⟨hm, rfl, fun _ _ h => h⟩
  split
  · exact ⟨hm, rfl, fun _ _ h => h⟩
  exact ⟨⟨hm.low, hm.dir, hspec.1.sound⟩, nextMapping_paging m _, fun n hn hnone =>
    unmapUserPagesForRange_none hm.space hm.low hm.dir rfl hn hnone⟩

lemma sysMprotect_none (hm : m.Sound background) (addr len prot : BitVec 32) :
    (sysMprotect m addr len prot).1.Sound background ∧
      nextMapping (sysMprotect m addr len prot).1 = nextMapping m ∧
      ∀ n < 1048576, m.userPte n = none → (sysMprotect m addr len prot).1.userPte n = none := by
  have hspec := setUserWritableForRange_spec (pageFloor addr) (alignUpPage len)
    hm.space hm.dir rfl (decide (prot &&& protWrite ≠ 0))
  unfold sysMprotect
  split
  · exact ⟨hm, rfl, fun _ _ h => h⟩
  exact ⟨⟨hm.low, hm.dir, hspec.1.sound⟩, nextMapping_paging m _, fun n hn hnone =>
    setUserWritableForRange_none hm.space hm.dir rfl _ hn hnone⟩

lemma lt_of_mul_lt_limit {n : Nat} (h : n * pageSize < mmapAnonLimit.toNat) : n < 1048576 := by
  unfold pageSize at h
  omega

lemma NothingAbove.of_changes (habove : NothingAbove m) {touched lost : Nat → Prop}
    (hchanges : m.Changes background touched lost m')
    (hnext : (nextMapping m).toNat ≤ (nextMapping m').toNat)
    (hout : ∀ n, (nextMapping m').toNat ≤ n * pageSize → ¬ touched n) : NothingAbove m' := by
  intro n hn hlt
  rw [hchanges.outside (lt_of_mul_lt_limit hlt) (hout n hn)]
  exact habove n (hnext.trans hn) hlt

lemma NothingAbove.unmapped (habove : NothingAbove m) {len : BitVec 32}
    (hout : ¬ OutsideMmapArea (nextMapping m) (alignUpPage len)) {n : Nat}
    (hn : InRange (nextMapping m) (alignUpPage len) n) : m.userPte n = none := by
  obtain ⟨hmin, hmax⟩ := not_outsideMmapArea hout
  have hrange := (inRange_iff (mmapBase_aligned _ 0) (alignUpPage_aligned len)
    (by change (nextMapping m).toNat + _ < _; omega) n).1 hn
  refine habove n hrange.1 ?_
  change _ < 0xB0000000
  change _ ∧ _ < (nextMapping m).toNat + _ at hrange
  omega

section

variable (hm : m.Sound background) (habove : NothingAbove m)
include hm habove

/-- A mapping at the place for the next one that runs out of memory has not changed anything. -/
lemma mapUserPagesForRange_of_allOrNothing {addr len prot : BitVec 32}
    (hc : StaysBelow m (.mmap addr len prot)) (haddr : addr = 0)
    (hout : ¬ OutsideMmapArea (mmapBase (ensureTaskIdentityDefaults m) addr) (alignUpPage len))
    {s : Paging} (hmap : mapUserPagesForRange m.paging m.pageDir
      (mmapBase (ensureTaskIdentityDefaults m) addr) (alignUpPage len) = (s, false)) :
    s = m.paging := by
  subst haddr
  have haligned := mmapBase_aligned (ensureTaskIdentityDefaults m) 0
  obtain ⟨hmin, hmax⟩ := not_outsideMmapArea hout
  change ¬ OutsideMmapArea (nextMapping m) _ at hout
  change mapUserPagesForRange _ _ (nextMapping m) _ = _ at hmap
  change (nextMapping m).toNat % _ = 0 at haligned
  change _ ≤ (nextMapping m).toNat at hmin
  change (nextMapping m).toNat + _ ≤ _ at hmax
  have hlength : alignUpPage len ≠ 0 := by
    intro hzero
    rw [hzero, mapUserPagesForRange, forUserPages_zero] at hmap
    simp at hmap
  have hnone : ∀ n, InRange (nextMapping m) (alignUpPage len) n → m.userPte n = none :=
    fun n hn => habove.unmapped hout hn
  have huser : ∀ n, InRange (nextMapping m) (alignUpPage len) n → UserPage n :=
    fun n hn => userPage_of_inRange hout haligned hn
  have hfirst : InRange (nextMapping m) (alignUpPage len) (pageNo (nextMapping m)) :=
    ⟨hlength, le_rfl, le_max_left _ _⟩
  rw [StaysBelow, if_pos rfl] at hc
  rcases hc with (rfl | hrefused) | ⟨-, hcost | hshort⟩
  · exact absurd (by decide) hlength
  · exact absurd hrefused hout
  · have hok := (mapUserPagesForRange_ok_iff hm.space hm.low hm.dir rfl hlength huser).2
      ((rangeNeed_le_rangeCost ..).trans
        (by rwa [max_eq_right (pageNo_le_last hlength (by omega))]))
    simp [hmap] at hok
  · have hfail := mapUserPagesForRange_short hm.space hm.low hm.dir rfl hlength (huser _ hfirst)
      (hnone _ hfirst) hshort
    rw [hmap, Prod.mk.injEq] at hfail
    exact hfail.1

/-- What `SYS_MMAP` maps lies below the place for the next mapping. -/
lemma sysMmap_ordered {addr len : BitVec 32} (prot : BitVec 32)
    (hc : StaysBelow m (.mmap addr len prot)) :
    NothingAbove (sysMmap m addr len prot).1 := by
  obtain ⟨hchanges, hresult⟩ := sysMmap_cases hm addr len prot
  have haligned := mmapBase_aligned (ensureTaskIdentityDefaults m) addr
  have hlen := alignUpPage_aligned len
  -- a mapping at a fixed address does not reach the place for the next one
  have hfixed : addr ≠ 0 →
      ¬ OutsideMmapArea (mmapBase (ensureTaskIdentityDefaults m) addr) (alignUpPage len) →
      ∀ n, (nextMapping m).toNat ≤ n * pageSize →
        ¬ InRange (mmapBase (ensureTaskIdentityDefaults m) addr) (alignUpPage len) n := by
    intro haddr hout n hn hin
    obtain ⟨hmin, hmax⟩ := not_outsideMmapArea hout
    have hrange := (inRange_iff haligned hlen (by omega) n).1 hin
    have hbase : mmapBase (ensureTaskIdentityDefaults m) addr = pageFloor addr := if_neg haddr
    rw [hbase] at hrange hout
    rw [StaysBelow, if_neg haddr] at hc
    rcases hc with (rfl | hrefused) | hzero | hle
    · exact hin.1 (by decide)
    · exact hout hrefused
    · exact hin.1 hzero
    · omega
  rcases hresult with ⟨-, hstate⟩ | ⟨-, hout, hmap, hstate⟩ | ⟨-, hout, hstate, -⟩
  · -- refused
    obtain ⟨hpaging, hdir⟩ := ensureTaskIdentityDefaults_paging m
    intro n hn hlt
    rw [hstate, nextMapping_ensure] at hn
    rw [hstate, TaskMemory.userPte, hpaging, hdir]
    exact habove n hn hlt
  · -- out of memory
    have hnext : nextMapping (sysMmap m addr len prot).1 = nextMapping m := by
      rw [hstate, nextMapping_paging, nextMapping_ensure]
    by_cases haddr : addr = 0
    · have hsame := mapUserPagesForRange_of_allOrNothing hm habove hc haddr hout hmap
      intro n hn hlt
      rw [hnext] at hn
      rw [TaskMemory.userPte, hchanges.pageDir, hsame]
      exact habove n hn hlt
    · refine habove.of_changes hchanges (congrArg BitVec.toNat hnext).ge fun n hn =>
        hfixed haddr hout n ?_
      rwa [hnext] at hn
  · -- mapped
    obtain ⟨hmin, hmax⟩ := not_outsideMmapArea hout
    have hbrk : (sysMmap m addr len prot).1.taskBrkBase ≠ 0 := by
      rw [hstate]
      exact taskBrkBase_ensure m
    have hmoved : (sysMmap m addr len prot).1.taskMmapNext = if addr = 0 then
        mmapBase (ensureTaskIdentityDefaults m) addr + alignUpPage len
      else (ensureTaskIdentityDefaults m).taskMmapNext := by
      rw [hstate]
    by_cases haddr : addr = 0
    · have hnext : (nextMapping (sysMmap m addr len prot).1).toNat =
          (mmapBase (ensureTaskIdentityDefaults m) addr).toNat + (alignUpPage len).toNat := by
        rw [nextMapping_of_ne_zero hbrk, hmoved, if_pos haddr, toNat_alignUpPage, BitVec.toNat_add]
        unfold pageSize at *
        omega
      have hbase : mmapBase (ensureTaskIdentityDefaults m) addr = nextMapping m := by
        rw [haddr, nextMapping]
      refine habove.of_changes hchanges (by rw [hnext, hbase]; omega) fun n hn hin => ?_
      have hrange := (inRange_iff haligned hlen (by omega) n).1 hin
      omega
    · have hnext : nextMapping (sysMmap m addr len prot).1 = nextMapping m := by
        rw [nextMapping_of_ne_zero hbrk, hmoved, if_neg haddr,
          ← nextMapping_of_ne_zero (taskBrkBase_ensure m), nextMapping_ensure]
      refine habove.of_changes hchanges (congrArg BitVec.toNat hnext).ge fun n hn =>
        hfixed haddr hout n ?_
      rwa [hnext] at hn

lemma mmapStep_ordered {c : MmapCall} (hc : StaysBelow m c) :
    (mmapStep m c).1.Sound background ∧ NothingAbove (mmapStep m c).1 ∧ FreshMapping m c := by
  cases c with
  | mmap addr len prot =>
    obtain ⟨hchanges, hresult⟩ := sysMmap_cases hm addr len prot
    refine ⟨hchanges.sound hm, sysMmap_ordered hm habove prot hc, ?_⟩
    rintro rfl hok
    obtain ⟨hbase, hout, -, -⟩ :=
      (hresult.resolve_left fun h => hok.1 h.1).resolve_left fun h => hok.2 h.1
    have haligned := mmapBase_aligned (ensureTaskIdentityDefaults m) 0
    obtain ⟨hmin, hmax⟩ := not_outsideMmapArea hout
    have hrange := inRange_iff haligned (alignUpPage_aligned len) (by omega)
    have hnone : ∀ n, InRange (nextMapping m) (alignUpPage len) n → m.userPte n = none :=
      fun n hn => habove.unmapped hout hn
    rw [hbase]
    refine ⟨fun a ha ha' => ?_, fun n hn e he => ?_⟩
    · rw [StaysBelow, if_pos rfl] at hc
      have hlen : Roundable len := by
        rcases hc with (rfl | hrefused) | ⟨hround, -⟩
        · decide
        · exact absurd hrefused hout
        · exact hround
      have hmapped := alignUpPage_of_roundable hlen
      refine hnone _ ((hrange _).2 ?_)
      unfold pageSize at *
      omega
    · have hin : ¬ InRange (nextMapping m) (alignUpPage len) n := fun hin => by
        rw [hnone n hin] at he
        cases he
      exact ⟨(hchanges.outside hn hin).trans he, hchanges.contents hn he⟩
  | munmap addr len =>
    obtain ⟨hsound, hnext, hnone⟩ := sysMunmap_none hm addr len
    refine ⟨hsound, fun n hn hlt => hnone n (lt_of_mul_lt_limit hlt) ?_, trivial⟩
    exact habove n (hnext ▸ hn) hlt
  | mprotect addr len prot =>
    obtain ⟨hsound, hnext, hnone⟩ := sysMprotect_none hm addr len prot
    refine ⟨hsound, fun n hn hlt => hnone n (lt_of_mul_lt_limit hlt) ?_, trivial⟩
    exact habove n (hnext ▸ hn) hlt

end

/-- In a run whose calls all stay below, every mapping placed by the kernel is fresh. -/
theorem mmap_fresh_of_staysBelow (hm : m.Sound background) (habove : NothingAbove m)
    {calls : List MmapCall} (hruns : Machine.Runs StaysBelow mmapStep m calls) :
    Machine.Runs FreshMapping mmapStep m calls := by
  induction calls generalizing m with
  | nil => trivial
  | cons c calls ih =>
    obtain ⟨hm', habove', hfresh⟩ := mmapStep_ordered hm habove hruns.1
    exact ⟨hfresh, ih hm' habove' hruns.2⟩

end

lemma freshTask_nothing (n : Nat) : freshTask.userPte n = none :=
  if_pos (Or.inl BitVec.zero_and)

/-- The kernel puts a mapping on one that was made at a fixed address. -/
theorem mmap_overlaps :
    freshTask.Sound below2MB ∧ NothingAbove freshTask ∧
      ¬ Machine.Runs FreshMapping mmapStep freshTask [.mmap 0x50000000 0x1000 0, .mmap 0 0x1000 3] := by
  refine ⟨freshTask_sound, fun n _ _ => freshTask_nothing n, ?_⟩
  rintro ⟨-, hfresh, -⟩
  have hbase : (sysMmap (sysMmap freshTask 0x50000000 0x1000 0).1 0 0x1000 3).2 = 0x50000000 := by
    decide +kernel
  have hmapped : ((sysMmap freshTask 0x50000000 0x1000 0).1.userPte 0x50000).isSome = true := by
    decide +kernel
  have hnone := (hfresh rfl (by rw [mmapStep, hbase]; decide)).1 0x50000000
    (by rw [mmapStep, hbase]; decide) (by rw [mmapStep, hbase]; decide)
  have hnone : (sysMmap freshTask 0x50000000 0x1000 0).1.userPte 0x50000 = none := hnone
  rw [hnone] at hmapped
  cases hmapped

lemma freshTask_free : 2 ≤ freshTask.paging.memoryBitmap.freePages.card := by
  have hsub : ({513, 514} : Finset Nat) ⊆ freshTask.paging.memoryBitmap.freePages := by
    intro page hpage
    rw [Pmm.mem_freePages]
    rcases Finset.mem_insert.1 hpage with rfl | hpage
    · decide
    · obtain rfl := Finset.mem_singleton.1 hpage
      decide
  exact (Finset.card_pair (by decide)).symm.le.trans (Finset.card_le_card hsub)

/-- One page is mapped. -/
theorem mmap_fresh_of_staysBelow_one :
    freshTask.Sound below2MB ∧ Machine.Runs FreshMapping mmapStep freshTask [.mmap 0 0x1000 3] := by
  refine ⟨freshTask_sound, mmap_fresh_of_staysBelow freshTask_sound
    (fun n _ _ => freshTask_nothing n) ⟨Or.inr ⟨by decide, Or.inl ?_⟩, trivial⟩⟩
  refine le_trans ?_ freshTask_free
  decide

end NeuroSpark
