import NeuroSpark.Lib.Machine
import NeuroSpark.Lib.Runs
import NeuroSpark.Lib.Word
import NeuroSpark.Mem.Paging

/-!
# The allocator of physical pages

`pmm_alloc_page` answers the lowest page that is neither the kernel's nor live, whatever was
allocated and freed before. `pmm_get_stats` scans the bitmap from the first megabyte on and counts
the free runs as it goes.
-/

namespace NeuroSpark

open Word

/-- The first page that may be freed. -/
def firstUserPage : Nat := 0x100000 / pageSize

/-- The bitmap, and how often each of the two functions was called. -/
structure PmmState where
  memoryBitmap : Pmm
  allocCalls : BitVec 32
  freeCalls : BitVec 32

/-- `init_pmm` for a kernel whose image ends at `kernelTop`. -/
def initPmmTo (kernelTop : Nat) : Pmm :=
  (List.range ((kernelTop + 4095) / pageSize)).foldl (fun b i => pmmSetPage b (i * pageSize))
    fun _ => 0

/-- `pmm_alloc_page` with its counter. -/
def PmmState.allocPage (s : PmmState) : PmmState × Nat :=
  let r := pmmAllocPage s.memoryBitmap
  ({ s with memoryBitmap := r.1, allocCalls := s.allocCalls + 1 }, r.2)

/-- `pmm_free_page` with its counter. -/
def PmmState.freePage (s : PmmState) (pageAddr : Nat) : PmmState :=
  if pageAddr < 0x100000 then s
  else
    { s with
      memoryBitmap := pmmFreePage s.memoryBitmap pageAddr
      freeCalls := s.freeCalls + 1 }

structure PmmStats where
  totalPages : Nat
  usedPages : Nat
  freePages : Nat
  largestFreeRun : Nat
  freeRuns : Nat
  fragmentationPermille : Nat
  allocCalls : BitVec 32
  freeCalls : BitVec 32

/-- The variables of the loop of `pmm_get_stats`. -/
structure StatsScan where
  usedPages : Nat := 0
  largestRun : Nat := 0
  curRun : Nat := 0
  freeRuns : Nat := 0

def StatsScan.page (b : Pmm) (scan : StatsScan) (i : Nat) : StatsScan :=
  if !pmmIsPageUsed b (i * pageSize) then
    let curRun := scan.curRun + 1
    { scan with
      curRun := curRun
      freeRuns := if curRun = 1 then scan.freeRuns + 1 else scan.freeRuns
      largestRun := if curRun > scan.largestRun then curRun else scan.largestRun }
  else { scan with usedPages := scan.usedPages + 1, curRun := 0 }

def pmmGetStats (s : PmmState) : PmmStats :=
  let totalPages := pageCount - firstUserPage
  let scan := (List.range' firstUserPage totalPages).foldl (StatsScan.page s.memoryBitmap) {}
  let freePages := sub32 totalPages scan.usedPages
  { totalPages
    usedPages := scan.usedPages
    freePages
    largestFreeRun := scan.largestRun
    freeRuns := scan.freeRuns
    fragmentationPermille :=
      if freePages = 0 ∨ scan.largestRun = 0 then 0
      else sub32 1000 (u32 (scan.largestRun * 1000) / freePages)
    allocCalls := s.allocCalls
    freeCalls := s.freeCalls }

/-! ### What the statistics mean -/

/-- The pages of `[1 MB, 32 MB)` that satisfy `P`. -/
def userPagesWith (P : Nat → Prop) [DecidablePred P] : Finset Nat :=
  (Finset.Ico firstUserPage pageCount).filter P

/-- The page is free. -/
def Pmm.Free (b : Pmm) (page : Nat) : Prop := ¬ b.Used page

instance (b : Pmm) : DecidablePred b.Free := fun page => inferInstanceAs (Decidable (¬ b.Used page))

/-- The statistics of a bitmap, by what they count. -/
structure PmmStats.Describes (stats : PmmStats) (b : Pmm) : Prop where
  total : stats.totalPages = pageCount - firstUserPage
  used : stats.usedPages = (userPagesWith b.Used).card
  free : stats.freePages = (userPagesWith b.Free).card
  largest : IsGreatest {n | ∃ a, Runs.IsBlock b.Free firstUserPage pageCount a (a + n)}
    stats.largestFreeRun
  runs : stats.freeRuns = {r : Nat × Nat | Runs.IsRun b.Free firstUserPage pageCount r.1 r.2}.ncard
  fragmentation : stats.fragmentationPermille =
    if stats.freePages = 0 then 0 else 1000 - stats.largestFreeRun * 1000 / stats.freePages
  permille : stats.fragmentationPermille ≤ 1000

variable {b : Pmm}

lemma pmmIsPageUsed_eq (b : Pmm) (i : Nat) :
    pmmIsPageUsed b (i * pageSize) = decide (b.Used i) := by
  simp [pmmIsPageUsed, Nat.mul_div_cancel i (show 0 < pageSize by decide)]

/-- What the loop knows in front of page `i`. -/
structure StatsScan.At (scan : StatsScan) (b : Pmm) (i : Nat) : Prop where
  runs : Runs.Scanned b.Free firstUserPage i scan.curRun scan.largestRun scan.freeRuns
  used : ((Finset.Ico firstUserPage i).filter b.Used).card = scan.usedPages

lemma StatsScan.At.page {scan : StatsScan} {i : Nat} (h : scan.At b i) :
    (scan.page b i).At b (i + 1) := by
  have hi : firstUserPage ≤ i := (Nat.le_add_right _ _).trans h.runs.current_le
  have hins := Finset.insert_Ico_right_eq_Ico_add_one hi
  simp only [StatsScan.page, pmmIsPageUsed_eq]
  by_cases hused : b.Used i
  · rw [if_neg (by simpa using hused)]
    refine ⟨h.runs.miss (not_not.2 hused), ?_⟩
    rw [← hins, Finset.filter_insert, if_pos hused, Finset.card_insert_of_notMem (by simp), h.used]
  · rw [if_pos (by simpa using hused)]
    refine ⟨?_, ?_⟩
    · have hmax : (if scan.curRun + 1 > scan.largestRun then scan.curRun + 1 else scan.largestRun) =
          max scan.largestRun (scan.curRun + 1) := by
        split_ifs <;> omega
      simpa only [hmax, Nat.add_eq_right] using h.runs.hit hused
    · rw [← hins, Finset.filter_insert, if_neg hused, h.used]

lemma statsScan_at (b : Pmm) (n : Nat) :
    ((List.range' firstUserPage n).foldl (StatsScan.page b) {}).At b (firstUserPage + n) := by
  induction n with
  | zero => exact ⟨Runs.Scanned.start, by simp⟩
  | succ n ih =>
    rw [List.range'_1_concat, List.foldl_append]
    exact ih.page

lemma card_used_add_free (b : Pmm) :
    (userPagesWith b.Used).card + (userPagesWith b.Free).card = pageCount - firstUserPage := by
  rw [userPagesWith, userPagesWith, ← Nat.card_Ico]
  exact Finset.card_filter_add_card_filter_not _

lemma block_le_card {a n : Nat} (h : Runs.IsBlock b.Free firstUserPage pageCount a (a + n)) :
    n ≤ (userPagesWith b.Free).card := by
  have hsub : Finset.Ico a (a + n) ⊆ userPagesWith b.Free := by
    intro j hj
    obtain ⟨haj, hjn⟩ := Finset.mem_Ico.1 hj
    exact Finset.mem_filter.2
      ⟨Finset.mem_Ico.2 ⟨h.lower.trans haj, hjn.trans_le h.upper⟩, h.all j haj hjn⟩
  simpa using Finset.card_le_card hsub

/-- The statistics count the pages of the bitmap. -/
theorem pmmGetStats_describes (s : PmmState) : (pmmGetStats s).Describes s.memoryBitmap := by
  have hend : firstUserPage + (pageCount - firstUserPage) = pageCount := by decide
  have hscan := statsScan_at s.memoryBitmap (pageCount - firstUserPage)
  rw [hend] at hscan
  generalize hfold : (List.range' firstUserPage (pageCount - firstUserPage)).foldl
    (StatsScan.page s.memoryBitmap) {} = scan at hscan
  have hsum := card_used_add_free s.memoryBitmap
  have hused : (userPagesWith s.memoryBitmap.Used).card = scan.usedPages := hscan.used
  have htotal : pageCount - firstUserPage = 7936 := by decide
  have hfree : sub32 (pageCount - firstUserPage) scan.usedPages =
      (userPagesWith s.memoryBitmap.Free).card := by
    rw [sub32_of_le (by omega) (by omega)]
    omega
  have hgreatest := hscan.runs.isGreatest
  obtain ⟨a, hblock⟩ := hgreatest.1
  have hle := block_le_card hblock
  have hfrag : (pmmGetStats s).fragmentationPermille =
      if (userPagesWith s.memoryBitmap.Free).card = 0 then 0
      else 1000 - scan.largestRun * 1000 / (userPagesWith s.memoryBitmap.Free).card := by
    simp only [pmmGetStats, hfold, hfree]
    by_cases hnone : (userPagesWith s.memoryBitmap.Free).card = 0
    · rw [if_pos (Or.inl hnone), if_pos hnone]
    · -- a free page is a block by itself
      have hpos : scan.largestRun ≠ 0 := by
        obtain ⟨j, hj⟩ := Finset.card_pos.1 (Nat.pos_of_ne_zero hnone)
        obtain ⟨hmem, hfreej⟩ := Finset.mem_filter.1 hj
        obtain ⟨hlo, hhi⟩ := Finset.mem_Ico.1 hmem
        have hone : 1 ≤ scan.largestRun := hgreatest.2
          ⟨j, hlo, Nat.le_succ j, hhi, fun q hq hqj => by
            rwa [show q = j by omega]⟩
        omega
      have hdiv : scan.largestRun * 1000 / (userPagesWith s.memoryBitmap.Free).card ≤ 1000 :=
        Nat.div_le_of_le_mul (Nat.mul_le_mul_right 1000 hle)
      rw [if_neg (not_or.2 ⟨hnone, hpos⟩), if_neg hnone, u32_of_lt (by omega),
        sub32_of_le hdiv (by decide)]
  exact
    { total := rfl
      used := by simpa only [pmmGetStats, hfold] using hused.symm
      free := by simpa only [pmmGetStats, hfold] using hfree
      largest := by simpa only [pmmGetStats, hfold] using hgreatest
      runs := by
        rw [Runs.ncard_runs, hscan.runs.starts_card]
        simp only [pmmGetStats, hfold]
      fragmentation := by
        rw [hfrag]
        simp only [pmmGetStats, hfold, hfree]
      permille := by
        rw [hfrag]
        split_ifs
        · exact Nat.zero_le _
        · exact Nat.sub_le _ _ }

/-! ### Runs of the allocator -/

inductive PmmCall
  | alloc
  | free (pageAddr : Nat)

/-- The allocator, and the pages that it has handed out and not got back. -/
structure PmmRun where
  state : PmmState
  live : Finset Nat

def PmmRun.start (kernelTop : Nat) : PmmRun := ⟨⟨initPmmTo kernelTop, 0, 0⟩, ∅⟩

def PmmRun.step (r : PmmRun) : PmmCall → PmmRun × Nat
  | .alloc =>
    let a := r.state.allocPage
    (⟨a.1, if a.2 = 0 then r.live else insert a.2 r.live⟩, a.2)
  | .free pageAddr => (⟨r.state.freePage pageAddr, r.live.erase pageAddr⟩, 0)

/-- Only live pages are freed. -/
def FreesLive (r : PmmRun) : PmmCall → Prop
  | .alloc => True
  | .free pageAddr => pageAddr ∈ r.live

instance : ∀ r c, Decidable (FreesLive r c)
  | _, .alloc => inferInstanceAs (Decidable True)
  | r, .free pageAddr => inferInstanceAs (Decidable (pageAddr ∈ r.live))

/-- The address of a page between the end of the kernel and the end of memory. -/
def IsFrame (kernelTop pageAddr : Nat) : Prop :=
  pageAddr % pageSize = 0 ∧ kernelTop ≤ pageAddr ∧ pageAddr < 0x2000000

instance (kernelTop pageAddr : Nat) : Decidable (IsFrame kernelTop pageAddr) :=
  inferInstanceAs (Decidable (_ ∧ _ ∧ _))

/-- The bitmap has the pages of the kernel and the live pages. -/
structure PmmRun.Tracked (kernelTop : Nat) (r : PmmRun) : Prop where
  frames : ∀ pageAddr ∈ r.live, IsFrame kernelTop pageAddr
  used : ∀ page, r.state.memoryBitmap.Used page ↔
    page * pageSize < kernelTop ∨ page * pageSize ∈ r.live

lemma pmmAllocPage_least (b : Pmm) :
    (∀ page < pageCount, b.Used page) ∧ (pmmAllocPage b).2 = 0 ∨
      ∃ page, IsLeast {q | q < pageCount ∧ b.Free q} page ∧
        pmmAllocPage b = (pmmSetPage b (page * pageSize), page * pageSize) := by
  rcases pmmAllocPage_freeList b with ⟨hnil, heq⟩ | ⟨page, rest, hfree, heq, -⟩
  · refine Or.inl ⟨fun page hpage => ?_, by rw [heq]⟩
    rw [Pmm.used_iff_freeList, hnil]
    exact ⟨hpage, List.not_mem_nil⟩
  · refine Or.inr ⟨page, ⟨?_, fun q hq => ?_⟩, heq⟩
    · exact Pmm.mem_freeList.1 (hfree ▸ List.mem_cons_self)
    · have hmem : q ∈ page :: rest := hfree ▸ Pmm.mem_freeList.2 hq
      have hsorted := hfree ▸ b.freeList_sorted
      rcases List.mem_cons.1 hmem with rfl | hrest
      · exact le_rfl
      · exact ((List.pairwise_cons.1 hsorted).1 q hrest).le

section

variable {kernelTop : Nat} {r : PmmRun}

lemma used_initPmmTo (hhigh : kernelTop ≤ 0x2000000) (page : Nat) :
    (initPmmTo kernelTop).Used page ↔ page * pageSize < kernelTop := by
  have hnone : ¬ Pmm.Used (fun _ => 0) page := by
    simp [Pmm.used_iff_getLsbD, Pmm.byteOf]
  rw [initPmmTo, used_foldl_pmmSetPage, or_iff_left hnone, List.mem_range]
  · unfold pageSize
    omega
  · intro q hq
    have := List.mem_range.1 hq
    unfold pageSize at this
    unfold pageCount
    omega

lemma tracked_start (hhigh : kernelTop ≤ 0x2000000) :
    (PmmRun.start kernelTop).Tracked kernelTop where
  frames pageAddr h := by cases h
  used page := by
    rw [PmmRun.start, used_initPmmTo hhigh]
    simp

lemma IsFrame.exists_page {pageAddr : Nat} (h : IsFrame kernelTop pageAddr) :
    ∃ page < pageCount, pageAddr = page * pageSize := by
  obtain ⟨hmod, -, hlt⟩ := h
  refine ⟨pageAddr / pageSize, ?_, ?_⟩
  · unfold pageCount pageSize
    omega
  · unfold pageSize at hmod ⊢
    omega

lemma isFrame_page {page : Nat} (hpage : page < pageCount) (h : kernelTop ≤ page * pageSize) :
    IsFrame kernelTop (page * pageSize) := by
  refine ⟨Nat.mul_mod_left _ _, h, ?_⟩
  unfold pageCount at hpage
  unfold pageSize
  omega

lemma page_mul_inj {page q : Nat} : q * pageSize = page * pageSize ↔ q = page := by
  unfold pageSize
  omega

lemma PmmRun.Tracked.free_iff (h : r.Tracked kernelTop) {page : Nat} (hpage : page < pageCount) :
    r.state.memoryBitmap.Free page ↔
      IsFrame kernelTop (page * pageSize) ∧ page * pageSize ∉ r.live := by
  rw [Pmm.Free, h.used, not_or, not_lt]
  exact and_congr_left fun _ => ⟨isFrame_page hpage, fun hframe => hframe.2.1⟩

lemma PmmRun.Tracked.allocPage (h : r.Tracked kernelTop) (hlow : 0x100000 ≤ kernelTop) :
    (∀ p, IsFrame kernelTop p → p ∈ r.live) ∧ r.state.allocPage.2 = 0 ∨
      ∃ page < pageCount, IsLeast {p | IsFrame kernelTop p ∧ p ∉ r.live} (page * pageSize) ∧
        0 < page * pageSize ∧
        pmmAllocPage r.state.memoryBitmap =
          (pmmSetPage r.state.memoryBitmap (page * pageSize), page * pageSize) := by
  rcases pmmAllocPage_least r.state.memoryBitmap with ⟨hall, hzero⟩ | ⟨page, hleast, heq⟩
  · refine Or.inl ⟨fun p hp => ?_, by simpa only [PmmState.allocPage] using hzero⟩
    obtain ⟨page, hpage, rfl⟩ := hp.exists_page
    by_contra hnot
    exact (h.free_iff hpage).2 ⟨hp, hnot⟩ (hall page hpage)
  · obtain ⟨hpage, hfree⟩ := hleast.1
    have hframe := (h.free_iff hpage).1 hfree
    refine Or.inr ⟨page, hpage, ⟨hframe, fun p hp => ?_⟩, ?_, heq⟩
    · obtain ⟨q, hq, rfl⟩ := hp.1.exists_page
      exact Nat.mul_le_mul_right _ (hleast.2 ⟨hq, (h.free_iff hq).2 hp⟩)
    · exact (by decide : 0 < 0x100000).trans_le (hlow.trans hframe.1.2.1)

lemma PmmRun.Tracked.step (hlow : 0x100000 ≤ kernelTop) (h : r.Tracked kernelTop) {c : PmmCall}
    (hc : FreesLive r c) : (r.step c).1.Tracked kernelTop := by
  cases c with
  | alloc =>
    rcases h.allocPage hlow with ⟨-, hzero⟩ | ⟨page, hpage, hleast, hpos, heq⟩
    · have hsame : r.state.allocPage.1.memoryBitmap = r.state.memoryBitmap := by
        rcases pmmAllocPage_cases r.state.memoryBitmap with ⟨-, heq⟩ | ⟨page, hpage, hfree, heq⟩
        · simp only [PmmState.allocPage, heq]
        · have hframe := (h.free_iff hpage).1 hfree
          have hpos := hlow.trans hframe.1.2.1
          simp only [PmmState.allocPage, heq] at hzero
          omega
      simp only [PmmRun.step, hzero, if_true]
      exact ⟨h.frames, fun page => by rw [hsame]; exact h.used page⟩
    · simp only [PmmRun.step, PmmState.allocPage, heq, if_neg hpos.ne']
      refine ⟨fun p hp => ?_, fun q => ?_⟩
      · rcases Finset.mem_insert.1 hp with rfl | hp
        · exact hleast.1.1
        · exact h.frames p hp
      · rw [used_pmmSetPage _ hpage, h.used, Finset.mem_insert, page_mul_inj]
        exact or_left_comm
  | free pageAddr =>
    have hframe := h.frames pageAddr hc
    obtain ⟨page, hpage, rfl⟩ := hframe.exists_page
    have hlow' := hlow.trans hframe.2.1
    simp only [PmmRun.step, PmmState.freePage, if_neg (not_lt.2 hlow')]
    refine ⟨fun p hp => h.frames p (Finset.mem_of_mem_erase hp), fun q => ?_⟩
    rw [used_pmmFreePage _ hlow' hpage, h.used, Finset.mem_erase, Ne, Ne, page_mul_inj]
    constructor
    · rintro ⟨hne, hkernel | hmem⟩
      · exact Or.inl hkernel
      · exact Or.inr ⟨hne, hmem⟩
    · rintro (hkernel | ⟨hne, hmem⟩)
      · -- the kernel has no live page
        refine ⟨?_, Or.inl hkernel⟩
        rintro rfl
        exact not_lt.2 hframe.2.1 hkernel
      · exact ⟨hne, Or.inr hmem⟩

/-- Whatever was allocated and freed, `pmm_alloc_page` answers the lowest page above the kernel that
is not live, or 0 if there is none, and `pmm_get_stats` describes the bitmap. -/
theorem pmm_runs_safe (kernelTop : Nat) (hlow : 0x100000 ≤ kernelTop)
    (hhigh : kernelTop ≤ 0x2000000) (calls : List PmmCall)
    (hlive : Machine.Runs FreesLive PmmRun.step (PmmRun.start kernelTop) calls) :
    let r := Machine.run PmmRun.step (PmmRun.start kernelTop) calls
    (r.state.allocPage.2 = 0 ↔ ∀ p, IsFrame kernelTop p → p ∈ r.live) ∧
      (r.state.allocPage.2 ≠ 0 →
        IsLeast {p | IsFrame kernelTop p ∧ p ∉ r.live} r.state.allocPage.2) ∧
      (pmmGetStats r.state).Describes r.state.memoryBitmap := by
  intro r
  have h : r.Tracked kernelTop :=
    Machine.run_invariant (fun _ _ h hc => h.step hlow hc) (tracked_start hhigh) hlive
  refine ⟨?_, ?_, pmmGetStats_describes r.state⟩
  · rcases h.allocPage hlow with ⟨hall, hzero⟩ | ⟨page, -, hleast, hpos, heq⟩
    · exact iff_of_true hzero hall
    · refine iff_of_false ?_ fun hall => hleast.1.2 (hall _ hleast.1.1)
      simpa only [PmmState.allocPage, heq] using hpos.ne'
  · intro hne
    rcases h.allocPage hlow with ⟨-, hzero⟩ | ⟨page, -, hleast, -, heq⟩
    · exact absurd hzero hne
    · simpa only [PmmState.allocPage, heq] using hleast

lemma initPmmTo_megabyte : initPmmTo 0x100000 = fun i => if i < 32 then 255 else 0 := by
  refine Pmm.ext_used fun page => ?_
  rw [used_initPmmTo (by decide), Pmm.used_iff_getLsbD, Pmm.byteOf]
  have hbit : page % 8 < 8 := Nat.mod_lt _ (by decide)
  by_cases hlow : page < 256
  · have hbyte : page / 8 < 1024 := by omega
    have hin : (⟨page / 8, hbyte⟩ : Fin 1024) < 32 := by
      change page / 8 < 32
      omega
    rw [dif_pos hbyte, if_pos hin]
    refine iff_of_true ?_ ?_
    · unfold pageSize
      omega
    · generalize page % 8 = i at hbit
      decide +revert
  · refine iff_of_false ?_ ?_
    · unfold pageSize
      omega
    · split_ifs with hbyte hin
      · change page / 8 < 32 at hin
        omega
      · simp
      · simp

/-- Two pages behind a kernel of one megabyte, the first of them given back. -/
theorem pmm_runs_safe_two :
    (pmmGetStats (Machine.run PmmRun.step (PmmRun.start 0x100000)
      [.alloc, .alloc, .free 0x100000]).state).Describes
      (Machine.run PmmRun.step (PmmRun.start 0x100000)
        [.alloc, .alloc, .free 0x100000]).state.memoryBitmap :=
  (pmm_runs_safe 0x100000 (by decide) (by decide) [.alloc, .alloc, .free 0x100000] (by
    rw [PmmRun.start, initPmmTo_megabyte]
    decide +kernel)).2.2

end

end NeuroSpark
