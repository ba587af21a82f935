import NeuroSpark.Mem.Cloning
import NeuroSpark.Mem.Failing

/-!
# What is in fresh pages

`map_user_pages_for_range` does not clear the pages that it maps: a task reads in them what their
frames held when they were free. Which frames these are is determined by the bitmap and the tables
of the task: the lowest free ones, and after each the next one for a table where it is missing.
-/

namespace NeuroSpark

/-- The frame for a page, and what is left of the free ones. A missing table takes another. -/
def takeFrame (missing : Bool) : List Nat → Option (Nat × List Nat)
  | [] => none
  | f :: free => if missing then free.head?.map fun _ => (f, free.tail) else some (f, free)

/-- The pages of a list that get mapped, with their frames. `made` are the tables that are there by
now. -/
def newFrames (s : Paging) (dir : Nat) : List Nat → List Nat → List Nat → List (Nat × Nat)
  | [], _, _ => []
  | n :: pages, made, free =>
    if (s.userPte dir n).isSome then newFrames s dir pages made free
    else
      match takeFrame (s.tableOf dir (dirIndex n) = none ∧ n / 1024 ∉ made) free with
      | none => []
      | some (f, free) => (n, f) :: newFrames s dir pages (n / 1024 :: made) free

/-- The pages of a range in order. -/
def rangePageList (start length : BitVec 32) : List Nat :=
  if length = 0 then []
  else
    List.range' (pageNo start)
      (max (pageNo start) (pageNo (start + length - 1)) + 1 - pageNo start)

/-- The pages that a call maps, with their frames. -/
def AreaCall.newFrames (m : TaskMemory) (c : AreaCall) : List (Nat × Nat) :=
  match c.plan m with
  | .edit .map start length =>
      NeuroSpark.newFrames m.paging (frameOf m.pageDir) (rangePageList start length) []
        m.paging.memoryBitmap.freeList
  | _ => []

/-- The two states differ only in the contents of free pages. -/
structure SameButFree (m₁ m₂ : TaskMemory) : Prop where
  bitmap : m₂.paging.memoryBitmap = m₁.paging.memoryBitmap
  memory : ∀ page, m₁.paging.memoryBitmap.Used page → m₂.paging.memory page = m₁.paging.memory page
  pageDir : m₂.pageDir = m₁.pageDir
  base : m₂.taskBrkBase = m₁.taskBrkBase
  current : m₂.taskBrkCurrent = m₁.taskBrkCurrent
  next : m₂.taskMmapNext = m₁.taskMmapNext

/-- What the call maps newly in the first state it maps in the second one, with the same words. -/
def FreshPagesSame (m₁ m₂ : TaskMemory) (c : AreaCall) : Prop :=
  ∀ n < 1048576, m₁.userPte n = none → ∀ e₁, (areaStep m₁ c).1.userPte n = some e₁ →
    ∃ e₂, (areaStep m₂ c).1.userPte n = some e₂ ∧
      (areaStep m₂ c).1.paging.memory (frameOf e₂) = (areaStep m₁ c).1.paging.memory (frameOf e₁)

section

variable {base : Pmm} {s s' t : Paging} {dir n : Nat} {pd start length : BitVec 32}

/-! ### One page -/

lemma mapUserPage_effect {physAddr virtAddr : BitVec 32}
    (h : mapUserPage s pd physAddr virtAddr = (s', true)) :
    s.memory (frameOf pd) (pdIndex virtAddr) &&& pagePresent = 0 ∧
        s'.memoryBitmap = s.allocPage.1.memoryBitmap ∧ s.allocPage.2 ≠ 0 ∧
        (∀ q, q ≠ frameOf pd → q ≠ frameOf s.allocPage.2 → s'.memory q = s.memory q) ∨
      s.memory (frameOf pd) (pdIndex virtAddr) &&& pagePresent ≠ 0 ∧
        s'.memoryBitmap = s.memoryBitmap ∧
        ∀ q, q ≠ frameOf (s.memory (frameOf pd) (pdIndex virtAddr)) → s'.memory q = s.memory q := by
  simp only [mapUserPage, frameOf_and_pageMask] at h
  split_ifs at h with hpd hpresent hzero
  · cases (Prod.mk.inj h).2
  · cases (Prod.mk.inj h).2
  · left
    obtain rfl := (Prod.mk.inj h).1
    refine ⟨hpresent, by simp only [Paging.memoryBitmap_setWord, Paging.memoryBitmap_setPage],
      hzero, fun q hq hq' => ?_⟩
    rw [Paging.memory_setWord, if_neg hq', Paging.memory_setWord, if_neg hq, Paging.memory_setPage,
      if_neg hq', Paging.memory_allocPage]
  · right
    obtain rfl := (Prod.mk.inj h).1
    refine ⟨hpresent, rfl, fun q hq => ?_⟩
    rw [Paging.memory_setWord, if_neg hq]

/-- The frames that are free after the mapping: it takes one for the table where that is missing. -/
lemma mapUserPage_freeList {physAddr : BitVec 32} (hdir : frameOf pd = dir) (hn : UserPage n)
    (h : mapUserPage s pd physAddr (pageAddress n) = (s', true)) :
    s.tableOf dir (dirIndex n) = none ∧
        (∃ g, s.memoryBitmap.freeList = g :: s'.memoryBitmap.freeList) ∨
      s.tableOf dir (dirIndex n) ≠ none ∧
        s'.memoryBitmap.freeList = s.memoryBitmap.freeList := by
  have hi := (userIndex_dirIndex hn.lt).2 hn
  have heffect := mapUserPage_effect h
  rw [hdir, pdIndex_pageAddress hn.lt] at heffect
  rcases heffect with ⟨hpresent, hbits, hne, -⟩ | ⟨hpresent, hbits, -⟩
  · left
    refine ⟨if_neg fun h => h.2 hpresent, ?_⟩
    rcases s.allocPage_freeList with ⟨-, halloc⟩ | ⟨g, rest, hfree, halloc, hrest⟩
    · rw [halloc] at hne
      exact absurd rfl hne
    · rw [halloc] at hbits
      exact ⟨g, by rw [hbits, hrest, hfree]⟩
  · right
    refine ⟨?_, by rw [hbits]⟩
    rw [Paging.tableOf, if_pos ⟨hi, hpresent⟩]
    exact Option.some_ne_none _

/-- The mapping changes neither pages that were in use nor pages that are free after it, apart from
the directory and the table. -/
lemma mapUserPage_memory {physAddr : BitVec 32} (hdir : frameOf pd = dir) (hn : UserPage n)
    (h : mapUserPage s pd physAddr (pageAddress n) = (s', true)) {q : Nat} (hne : q ≠ dir)
    (htable : s.tableOf dir (dirIndex n) ≠ some q)
    (hused : s.memoryBitmap.Used q ∨ ¬ s'.memoryBitmap.Used q) :
    s'.memory q = s.memory q := by
  have hi := (userIndex_dirIndex hn.lt).2 hn
  have heffect := mapUserPage_effect h
  rw [hdir, pdIndex_pageAddress hn.lt] at heffect
  rcases heffect with ⟨-, hbits, hzero, hmem⟩ | ⟨hpresent, -, hmem⟩
  · refine hmem q hne ?_
    rintro rfl
    rcases s.allocPage_cases with halloc | ⟨g, hg, hgfree, halloc⟩
    · rw [halloc] at hzero
      exact absurd rfl hzero
    · rw [halloc] at hbits hused
      rw [frameOf_pageAddress hg] at hused
      rcases hused with hold | hnew
      · exact hgfree hold
      · rw [hbits] at hnew
        exact hnew ((used_pmmSetPage _ hg g).2 (Or.inl rfl))
  · refine hmem q ?_
    rintro rfl
    rw [Paging.tableOf, if_pos ⟨hi, hpresent⟩] at htable
    exact htable rfl

/-- A page that is not mapped gets the first free frame, whose contents stay, unless memory is
short. -/
lemma mapRangeRound_takeFrame (hs : s.Sound base dir) (hlow : ∀ page < 256, base.Used page)
    (hpd : pd &&& pageMask ≠ 0) (hdir : frameOf pd = dir) (hn : UserPage n)
    (hnone : s.userPte dir n = none) :
    takeFrame (s.tableOf dir (dirIndex n) = none) s.memoryBitmap.freeList = none ∧
        mapRangeRound pd s (pageAddress n) = .error s ∨
      ∃ f s', takeFrame (s.tableOf dir (dirIndex n) = none) s.memoryBitmap.freeList =
          some (f, s'.memoryBitmap.freeList) ∧
        mapRangeRound pd s (pageAddress n) = .ok s' ∧
        s.MapsFree base dir n f s' ∧ f < pageCount ∧ s'.memory f = s.memory f ∧
        ∀ q, ¬ s'.memoryBitmap.Used q → s'.memory q = s.memory q := by
  have hpage := pageNo_pageAddress hn.lt
  have hva : UserPage (pageNo (pageAddress n)) := by rwa [hpage]
  have hzero := resolveUserPhys_eq_zero hs hlow hpd hdir hva
  rw [hpage] at hzero
  have hlow' : ∀ page < 256, s.memoryBitmap.Used page := fun q hq => hs.used_of_base (hlow q hq)
  rw [mapRangeRound, if_neg (not_not.2 (hzero.2 hnone))]
  rcases s.allocPage_freeList with ⟨hnil, halloc⟩ | ⟨f, rest, hfree, halloc, hrest⟩
  · rw [hnil, halloc]
    exact Or.inl ⟨rfl, if_pos rfl⟩
  obtain ⟨hf, hfnot, hf0⟩ := pageAddress_ne_zero_of_free hlow' hfree
  have hflow := (low_of_not_used hlow' hfnot).1
  have hlength := s.memoryBitmap.length_freeList
  rw [hfree, List.length_cons] at hlength
  rw [hfree, takeFrame]
  simp only [halloc, hf0, if_false]
  rcases mapUserPage_unmapped hs hlow hpd hdir hn hnone hf hfnot rfl with
    ⟨hfail, hcard⟩ | ⟨s', hok, hmaps, -⟩
  · -- one page is left, and a table is missing
    left
    rw [Paging.pageCost] at hcard
    have htable : s.tableOf dir (dirIndex n) = none := by
      by_contra htable
      rw [if_neg htable] at hcard
      omega
    rw [if_pos htable] at hcard
    obtain rfl : rest = [] := List.length_eq_zero_iff.1 (by omega)
    simp only [htable, decide_true, if_true, hfail, Bool.false_eq_true, if_false, List.head?_nil,
      Option.map_none, true_and]
    rw [freePage_allocPage hf hflow hfnot]
  right
  have hfused := used_pmmSetPage s.memoryBitmap hf
  have hdirOld : s.memoryBitmap.Used dir := hs.accounts.used_of_own (s := .directory) rfl
  have hgrows : ∀ q, s.memoryBitmap.Used q → s'.memoryBitmap.Used q := by
    intro q hq
    have hstays := used_mapUserPage ⟨pmmSetPage s.memoryBitmap (f * pageSize), s.memory⟩ pd
      (pageAddress f) (pageAddress n) ((hfused q).2 (Or.inr hq))
    rwa [hok] at hstays
  -- a page that is not in use before is neither the directory nor the table
  have hmemory : ∀ q, (¬ s.memoryBitmap.Used q) →
      ((pmmSetPage s.memoryBitmap (f * pageSize)).Used q ∨ ¬ s'.memoryBitmap.Used q) →
      s'.memory q = s.memory q := by
    refine fun q hq hused => mapUserPage_memory hdir hn hok ?_ ?_ hused
    · rintro rfl
      exact hq hdirOld
    · intro htable
      exact hq (hs.accounts.used_of_own (s := .table (dirIndex n)) htable)
  refine ⟨f, s', ?_, by rw [hok, if_pos rfl], hmaps, hf,
    hmemory f hfnot (Or.inl ((hfused f).2 (Or.inl rfl))),
    fun q hq => hmemory q (fun hold => hq (hgrows q hold)) (Or.inr hq)⟩
  have htables : (Paging.mk (pmmSetPage s.memoryBitmap (f * pageSize)) s.memory).tableOf dir
    (dirIndex n) = s.tableOf dir (dirIndex n) := rfl
  rcases mapUserPage_freeList hdir hn hok with ⟨hnew, g, hleft⟩ | ⟨hold, hleft⟩
  · rw [htables] at hnew
    rw [hrest] at hleft
    simp [hnew, hleft]
  · rw [htables] at hold
    rw [hrest] at hleft
    simp [hold, hleft]

/-! ### A range -/

lemma takeFrame_mem {missing : Bool} {free free' : List Nat} {f : Nat}
    (h : takeFrame missing free = some (f, free')) : f ∈ free ∧ ∀ g ∈ free', g ∈ free := by
  cases free with
  | nil => cases h
  | cons g rest =>
    rw [takeFrame] at h
    split_ifs at h
    · obtain ⟨-, -, heq⟩ := Option.map_eq_some_iff.1 h
      obtain ⟨rfl, rfl⟩ := Prod.mk.inj heq
      exact ⟨List.mem_cons_self, fun q hq => List.mem_cons_of_mem _ (List.mem_of_mem_tail hq)⟩
    · obtain ⟨rfl, rfl⟩ := Prod.mk.inj (Option.some.inj h)
      exact ⟨List.mem_cons_self, fun q hq => List.mem_cons_of_mem _ hq⟩

lemma mem_free_of_newFrames {pages made free : List Nat} {x : Nat × Nat}
    (h : x ∈ newFrames s dir pages made free) : x.2 ∈ free := by
  induction pages generalizing made free with
  | nil => cases h
  | cons n pages ih =>
    rw [newFrames] at h
    split_ifs at h
    · exact ih h
    · cases htake : takeFrame (s.tableOf dir (dirIndex n) = none ∧ n / 1024 ∉ made) free with
      | none =>
        rw [htake] at h
        cases h
      | some r =>
        obtain ⟨hmem, hsub⟩ := takeFrame_mem htake
        rw [htake] at h
        rcases List.mem_cons.1 h with rfl | h
        · exact hmem
        · exact hsub _ (ih h)

lemma dirIndex_ne {m : Nat} (hm : m < 1048576) (hn : n < 1048576) :
    dirIndex m ≠ dirIndex n ↔ m / 1024 ≠ n / 1024 := by
  rw [ne_eq, ne_eq, Fin.ext_iff, dirIndex, dirIndex, Fin.val_ofNat, Fin.val_ofNat]
  omega

/-- What the loop leaves when it has gone through the pages `pages`, or stopped among them. -/
structure MapsFrames (base : Pmm) (dir : Nat) (s : Paging) (pages made : List Nat) (t r : Paging) :
    Prop where
  changes : t.Changes base dir (· ∈ pages) (fun _ => False) r
  mapped : ∀ x ∈ newFrames s dir pages made t.memoryBitmap.freeList,
    x.1 ∈ pages ∧ s.userPte dir x.1 = none ∧ x.2 < pageCount ∧
      r.userPte dir x.1 = some (userEntry (pageAddress x.2)) ∧ r.memory x.2 = t.memory x.2
  others : ∀ n ∈ pages, s.userPte dir n = none →
    (∀ x ∈ newFrames s dir pages made t.memoryBitmap.freeList, x.1 ≠ n) → r.userPte dir n = none

/-- A page that is mapped already takes no frame. -/
lemma MapsFrames.cons_mapped {pages made : List Nat} {e : BitVec 32}
    (hmapped : s.userPte dir n = some e) (hr : MapsFrames base dir s pages made t r) :
    MapsFrames base dir s (n :: pages) made t r := by
  have hframes : ∀ free, newFrames s dir (n :: pages) made free = newFrames s dir pages made free :=
    fun free => by rw [newFrames, hmapped, if_pos (Option.isSome_some)]
  refine ⟨hr.changes.mono (fun m hm => List.mem_cons_of_mem n hm) fun _ h => h, fun x hx => ?_,
    fun m hm hnone hx => ?_⟩
  · rw [hframes] at hx
    obtain ⟨hmem, hx'⟩ := hr.mapped x hx
    exact ⟨List.mem_cons_of_mem n hmem, hx'⟩
  · rw [hframes] at hx
    rcases List.mem_cons.1 hm with rfl | hm
    · cases hmapped.symm.trans hnone
    · exact hr.others m hm hnone hx

lemma foldlM_mapsFrames (hlow : ∀ page < 256, base.Used page) (hpd : pd &&& pageMask ≠ 0)
    (hdir : frameOf pd = dir) {pages made : List Nat} (huser : ∀ n ∈ pages, UserPage n)
    (hnodup : pages.Nodup) (ht : t.Sound base dir)
    (hpte : ∀ n ∈ pages, t.userPte dir n = s.userPte dir n)
    (htables : ∀ n ∈ pages, t.tableOf dir (dirIndex n) = none ↔
      s.tableOf dir (dirIndex n) = none ∧ n / 1024 ∉ made) :
    ∃ r, (pages.foldlM (fun s n => mapRangeRound pd s (pageAddress n)) t = .ok r ∨
        pages.foldlM (fun s n => mapRangeRound pd s (pageAddress n)) t = .error r) ∧
      MapsFrames base dir s pages made t r := by
  induction pages generalizing made t with
  | nil =>
    exact ⟨t, Or.inl rfl, Paging.Changes.refl ht, fun x hx => (nomatch hx),
      fun n hn => (nomatch hn)⟩
  | cons n pages ih =>
    obtain ⟨hnmem, hnodup'⟩ := List.nodup_cons.1 hnodup
    have hn := huser n List.mem_cons_self
    have huser' : ∀ m ∈ pages, UserPage m := fun m hm => huser m (List.mem_cons_of_mem n hm)
    have hself := hpte n List.mem_cons_self
    have hrest : ∀ m ∈ pages, t.userPte dir m = s.userPte dir m := fun m hm =>
      hpte m (List.mem_cons_of_mem n hm)
    rw [List.foldlM_cons]
    cases hmapped : s.userPte dir n with
    | some e =>
      rw [hmapped] at hself
      have hround : mapRangeRound pd t (pageAddress n) = .ok t := by
        rcases mapRangeRound_cases ht hlow hpd hdir hn with ⟨-, hround⟩ | ⟨hnone, -⟩ | ⟨hnone, -⟩
        · exact hround
        · cases hself.symm.trans hnone
        · cases hself.symm.trans hnone
      obtain ⟨r, hresult, hr⟩ := ih huser' hnodup' ht hrest fun m hm =>
        htables m (List.mem_cons_of_mem n hm)
      rw [hround]
      exact ⟨r, hresult, hr.cons_mapped hmapped⟩
    | none =>
      rw [hmapped] at hself
      have hmissing : decide (t.tableOf dir (dirIndex n) = none) =
          decide (s.tableOf dir (dirIndex n) = none ∧ n / 1024 ∉ made) :=
        decide_eq_decide.2 (htables n List.mem_cons_self)
      rcases mapRangeRound_takeFrame ht hlow hpd hdir hn hself with
        ⟨htake, hround⟩ | ⟨f, t', htake, hround, ⟨hchanges, hentry, htables'⟩, hf, hmem, hfree⟩
      · -- the loop stops here
        rw [hmissing] at htake
        have hframes : newFrames s dir (n :: pages) made t.memoryBitmap.freeList = [] := by
          rw [newFrames, hmapped, if_neg (by simp), htake]
        rw [hround]
        refine ⟨t, Or.inr rfl, Paging.Changes.refl ht, fun x hx => ?_, fun m hm hnone _ => ?_⟩
        · rw [hframes] at hx
          cases hx
        · exact (hpte m hm).trans hnone
      · rw [hmissing] at htake
        have hframes : newFrames s dir (n :: pages) made t.memoryBitmap.freeList =
            (n, f) :: newFrames s dir pages (n / 1024 :: made) t'.memoryBitmap.freeList := by
          rw [newFrames, hmapped, if_neg (by simp), htake]
        have hne : ∀ m ∈ pages, m ≠ n := fun m hm heq => hnmem (heq ▸ hm)
        obtain ⟨r, hresult, hr⟩ := @ih t' (n / 1024 :: made) huser' hnodup' hchanges.sound
          (fun m hm => (hchanges.outside m (huser' m hm).lt (hne m hm)).trans (hrest m hm))
          fun m hm => by
            rw [htables', htables m (List.mem_cons_of_mem n hm), List.mem_cons, not_or,
              dirIndex_ne (huser' m hm).lt hn.lt, and_assoc]
            exact and_congr_right fun _ => and_comm
        rw [hround]
        refine ⟨r, hresult, (hchanges.mono ?_ fun _ h => h).trans (hr.changes.mono ?_ fun _ h => h),
          fun x hx => ?_, fun m hm hnone hx => ?_⟩
        · rintro m rfl
          exact List.mem_cons_self
        · exact fun m hm => List.mem_cons_of_mem n hm
        · rw [hframes] at hx
          rcases List.mem_cons.1 hx with rfl | hx
          · obtain ⟨e', he', -, hmem'⟩ := hr.changes.kept n hn.lt id _ hentry
            rw [frameOf_userEntry, frameOf_pageAddress hf] at hmem'
            exact ⟨List.mem_cons_self, hmapped, hf,
              (hr.changes.outside n hn.lt hnmem).trans hentry, hmem'.trans hmem⟩
          · obtain ⟨hpage, hnone, hlt, hentry', hmem'⟩ := hr.mapped x hx
            have hunused := (Pmm.mem_freeList.1 (mem_free_of_newFrames hx)).2
            exact ⟨List.mem_cons_of_mem n hpage, hnone, hlt, hentry',
              hmem'.trans (hfree x.2 hunused)⟩
        · rw [hframes] at hx
          have hmn : m ≠ n := fun heq => hx (n, f) List.mem_cons_self heq.symm
          exact hr.others m (List.mem_of_ne_of_mem hmn hm) hnone fun x hx' =>
            hx x (List.mem_cons_of_mem _ hx')

lemma mem_rangePageList : n ∈ rangePageList start length ↔ InRange start length n := by
  rw [rangePageList, InRange]
  split_ifs with hlength
  · exact iff_of_false List.not_mem_nil fun h => h.1 hlength
  · rw [List.mem_range'_1, and_iff_right hlength]
    omega

lemma mapUserPagesForRange_mapsFrames (hs : s.Sound base dir) (hlow : ∀ page < 256, base.Used page)
    (hpd : pd &&& pageMask ≠ 0) (hdir : frameOf pd = dir)
    (huser : ∀ n, InRange start length n → UserPage n) :
    MapsFrames base dir s (rangePageList start length) [] s
      (mapUserPagesForRange s pd start length).1 := by
  have huser' : ∀ n ∈ rangePageList start length, UserPage n := fun n hn =>
    huser n (mem_rangePageList.1 hn)
  have htables : ∀ n ∈ rangePageList start length, s.tableOf dir (dirIndex n) = none ↔
      s.tableOf dir (dirIndex n) = none ∧ n / 1024 ∉ ([] : List Nat) := fun n _ => by simp
  by_cases hlength : length = 0
  · subst hlength
    exact ⟨Paging.Changes.refl hs, fun x hx => absurd hx List.not_mem_nil,
      fun n hn => absurd hn List.not_mem_nil⟩
  rw [rangePageList, if_neg hlength] at huser' htables ⊢
  rw [mapUserPagesForRange, forUserPages_eq hlength]
  obtain ⟨r, hresult, hr⟩ := foldlM_mapsFrames hlow hpd hdir huser' List.nodup_range' hs
    (fun _ _ => rfl) htables
  rcases hresult with hresult | hresult <;> rwa [hresult]

/-! ### Calls -/

/-- The pages of `frames` are new in `r`, have their frames, and hold what these held before; no
other page is new. -/
structure TakesFrames (m : TaskMemory) (frames : List (Nat × Nat)) (r : Paging) : Prop where
  mapped : ∀ x ∈ frames, x.1 < 1048576 ∧ m.userPte x.1 = none ∧ ∃ e,
    r.userPte (frameOf m.pageDir) x.1 = some e ∧ frameOf e = x.2 ∧
      r.memory x.2 = m.paging.memory x.2
  others : ∀ n < 1048576, m.userPte n = none → (∀ x ∈ frames, x.1 ≠ n) →
    r.userPte (frameOf m.pageDir) n = none

variable {background : Pmm} {m m₁ m₂ : TaskMemory}

lemma takesFrames_nil {r : Paging}
    (h : ∀ n < 1048576, m.userPte n = none → r.userPte (frameOf m.pageDir) n = none) :
    TakesFrames m [] r :=
  ⟨fun _ hx => (nomatch hx), fun n hn hnone _ => h n hn hnone⟩

lemma takesFrames_map (hm : m.Sound background)
    (huser : ∀ n, InRange start length n → UserPage n) :
    TakesFrames m
      (NeuroSpark.newFrames m.paging (frameOf m.pageDir) (rangePageList start length) []
        m.paging.memoryBitmap.freeList)
      (mapUserPagesForRange m.paging m.pageDir start length).1 := by
  have hmaps := mapUserPagesForRange_mapsFrames hm.space hm.low hm.dir rfl huser
  refine ⟨fun x hx => ?_, fun n hn hnone hx => ?_⟩
  · obtain ⟨hpage, hnone, hlt, hentry, hmem⟩ := hmaps.mapped x hx
    refine ⟨(mem_rangePageList.1 hpage).lt, hnone, _, hentry, ?_, hmem⟩
    rw [frameOf_userEntry, frameOf_pageAddress hlt]
  · by_cases hin : n ∈ rangePageList start length
    · exact hmaps.others n hin hnone hx
    · exact (hmaps.changes.outside n hn hin).trans hnone

lemma TakesFrames.setWritable {frames : List (Nat × Nat)} {r : Paging}
    (h : TakesFrames m frames r) (hr : r.Sound base (frameOf m.pageDir))
    (hdir : m.pageDir &&& pageMask ≠ 0) (writable : Bool) :
    TakesFrames m frames (setUserWritableForRange r m.pageDir start length writable).1 := by
  have hspec := setUserWritableForRange_spec start length hr hdir rfl writable
  refine ⟨fun x hx => ?_, fun n hn hnone hx => ?_⟩
  · obtain ⟨hlt, hnone, e, he, hframe, hmem⟩ := h.mapped x hx
    obtain ⟨e', he', hframe', hmem'⟩ := hspec.1.kept x.1 hlt id e he
    rw [hframe] at hframe' hmem'
    exact ⟨hlt, hnone, e', he', hframe', hmem'.trans hmem⟩
  · exact setUserWritableForRange_none hr hdir rfl writable hn (h.others n hn hnone hx)

lemma sysMmap_takesFrames (hm : m.Ready background) (addr len prot : BitVec 32) :
    TakesFrames m (AreaCall.newFrames m (.mapping (.mmap addr len prot)))
      (sysMmap m addr len prot).1.paging := by
  obtain ⟨hpaging, hdir⟩ := ensureTaskIdentityDefaults_paging m
  rw [AreaCall.newFrames, AreaCall.plan, sysMmap]
  by_cases hlen : len = 0
  · simp only [hlen, true_or, if_true, hpaging]
    exact takesFrames_nil fun _ _ hnone => hnone
  by_cases hout : OutsideMmapArea (mmapBase (ensureTaskIdentityDefaults m) addr) (alignUpPage len)
  · simp only [hlen, hout, or_true, if_true, if_false, hpaging]
    exact takesFrames_nil fun _ _ hnone => hnone
  have huser : ∀ n, InRange (mmapBase (ensureTaskIdentityDefaults m) addr) (alignUpPage len) n →
      UserPage n := fun n hn => userPage_of_inRange hout (mmapBase_aligned _ addr) hn
  have htakes := takesFrames_map hm.sound huser
  have hsound := (mapUserPagesForRange_spec _ _ hm.sound.space hm.sound.low hm.sound.dir rfl
    huser).1.sound
  simp only [hlen, hout, or_self, if_false, hpaging, hdir]
  generalize mapUserPagesForRange m.paging m.pageDir
    (mmapBase (ensureTaskIdentityDefaults m) addr) (alignUpPage len) = r at htakes hsound
  have hset := @TakesFrames.setWritable background (mmapBase (ensureTaskIdentityDefaults m) addr)
    (alignUpPage len) m _ r.1 htakes hsound hm.sound.dir (decide (prot &&& protWrite ≠ 0))
  by_cases hmap : r.2 = false
  · simpa only [if_pos hmap] using htakes
  · simpa only [if_neg hmap, apply_ite Prod.fst, apply_ite TaskMemory.paging, ite_self] using hset

lemma breakStep_takesFrames (hm : m.Ready background) (c : BreakCall) :
    TakesFrames m (AreaCall.newFrames m (.heap c)) (breakStep m c).1.paging := by
  obtain ⟨hpaging, hdir⟩ := ensureTaskIdentityDefaults_paging m
  obtain ⟨hready, hbase⟩ := hm.ensure
  have hbounds := (hready.bounds.resolve_left (by rw [hbase]; decide)).2
  rw [AreaCall.newFrames, AreaCall.plan, breakStep_state]
  cases hrequest : breakRequest (ensureTaskIdentityDefaults m) c with
  | none =>
    simp only [hpaging]
    exact takesFrames_nil fun _ _ hnone => hnone
  | some r =>
    have hle := (breakRequest_le hrequest).2
    simp only [moveBreak, hpaging, hdir, apply_ite Prod.fst, apply_ite TaskMemory.paging, ite_self]
    by_cases hgrow : (ensureTaskIdentityDefaults m).taskBrkCurrent < r
    · simp only [if_pos hgrow]
      refine takesFrames_map hm.sound fun n hn => ?_
      rw [inRange_sub hgrow] at hn
      exact userPage_of_heap ((Nat.div_le_div_right hbounds.1).trans hn.1)
        (lt_of_lt_of_le hn.2 hle)
    by_cases hshrink : r < (ensureTaskIdentityDefaults m).taskBrkCurrent
    · simp only [if_neg hgrow, if_pos hshrink]
      exact takesFrames_nil fun n hn hnone =>
        unmapUserPagesForRange_none hm.sound.space hm.sound.low hm.sound.dir rfl hn hnone
    · simp only [if_neg hgrow, if_neg hshrink]
      exact takesFrames_nil fun _ _ hnone => hnone

lemma areaStep_pageDir (m : TaskMemory) (c : AreaCall) : (areaStep m c).1.pageDir = m.pageDir := by
  have hdir := (ensureTaskIdentityDefaults_paging m).2
  match c with
  | .mapping (.mmap addr len prot) =>
    simp only [areaStep, mmapStep, sysMmap, apply_ite Prod.fst, apply_ite TaskMemory.pageDir, hdir,
      ite_self]
  | .mapping (.munmap addr len) =>
    simp only [areaStep, mmapStep, sysMunmap, apply_ite Prod.fst, apply_ite TaskMemory.pageDir,
      ite_self]
  | .mapping (.mprotect addr len prot) =>
    simp only [areaStep, mmapStep, sysMprotect, apply_ite Prod.fst, apply_ite TaskMemory.pageDir,
      ite_self]
  | .heap c =>
    simp only [areaStep, breakStep_state]
    cases breakRequest (ensureTaskIdentityDefaults m) c with
    | none => exact hdir
    | some r =>
      simp only [moveBreak, apply_ite Prod.fst, apply_ite TaskMemory.pageDir, hdir, ite_self]

lemma areaStep_takesFrames (hm : m.Ready background) (c : AreaCall) :
    TakesFrames m (c.newFrames m) (areaStep m c).1.paging := by
  have hdir := areaStep_pageDir m c
  match c with
  | .mapping (.mmap addr len prot) => exact sysMmap_takesFrames hm addr len prot
  | .mapping (.munmap addr len) =>
    have hnone := (sysMunmap_none hm.sound addr len).2.2
    rw [AreaCall.newFrames, AreaCall.plan]
    split_ifs <;> exact takesFrames_nil fun n hn hold => hdir ▸ hnone n hn hold
  | .mapping (.mprotect addr len prot) =>
    have hnone := (sysMprotect_none hm.sound addr len prot).2.2
    rw [AreaCall.newFrames, AreaCall.plan]
    split_ifs <;> exact takesFrames_nil fun n hn hold => hdir ▸ hnone n hn hold
  | .heap c => exact breakStep_takesFrames hm c

/-! ### Two states -/

lemma plan_paging (m : TaskMemory) (s : Paging) (c : AreaCall) :
    c.plan { m with paging := s } = c.plan m := by
  have hdefaults : ensureTaskIdentityDefaults { m with paging := s } =
      { ensureTaskIdentityDefaults m with paging := s } := by
    unfold ensureTaskIdentityDefaults
    split_ifs <;> rfl
  match c with
  | .mapping (.mmap addr len prot) =>
    rw [AreaCall.plan, AreaCall.plan, hdefaults]
    rfl
  | .mapping (.munmap addr len) => rfl
  | .mapping (.mprotect addr len prot) => rfl
  | .heap (.brk requested) =>
    rw [AreaCall.plan, AreaCall.plan, hdefaults]
    rfl
  | .heap (.sbrk increment) =>
    rw [AreaCall.plan, AreaCall.plan, hdefaults]
    rfl

lemma SameButFree.plan (h : SameButFree m₁ m₂) (c : AreaCall) : c.plan m₂ = c.plan m₁ := by
  have heq : m₂ = { m₁ with paging := m₂.paging } := by
    obtain ⟨-, -, hdir, hbase, hcurrent, hnext⟩ := h
    cases m₂
    simp only [TaskMemory.mk.injEq, true_and]
    exact ⟨hdir, hbase, hcurrent, hnext⟩
  rw [heq, plan_paging]

lemma newFrames_congr (hpte : ∀ n, t.userPte dir n = s.userPte dir n)
    (htables : ∀ i, t.tableOf dir i = s.tableOf dir i) (pages made free : List Nat) :
    newFrames t dir pages made free = newFrames s dir pages made free := by
  induction pages generalizing made free with
  | nil => rfl
  | cons n pages ih =>
    rw [newFrames, newFrames, hpte, htables]
    split_ifs
    · exact ih made free
    · cases takeFrame (s.tableOf dir (dirIndex n) = none ∧ n / 1024 ∉ made) free with
      | none => rfl
      | some r => exact congrArg _ (ih _ _)

lemma SameButFree.newFrames (h : SameButFree m₁ m₂) (hm₁ : m₁.Sound background)
    (hm₂ : m₂.Sound background) (c : AreaCall) : c.newFrames m₂ = c.newFrames m₁ := by
  have hdir : m₂.paging.memory (frameOf m₁.pageDir) = m₁.paging.memory (frameOf m₁.pageDir) :=
    h.memory _ (hm₁.space.accounts.used_of_own (s := .directory) rfl)
  have htables : ∀ i table, m₁.paging.tableOf (frameOf m₁.pageDir) i = some table →
      m₂.paging.memory table = m₁.paging.memory table := fun i table htable =>
    h.memory table (hm₁.space.accounts.used_of_own (s := .table i) htable)
  have hspace := hm₂.space
  rw [h.pageDir] at hspace
  have hframes := newFrames_congr (hm₁.space.userPte_congr hspace hdir htables)
    (Paging.tableOf_congr hdir)
  rw [AreaCall.newFrames, AreaCall.newFrames, h.plan, h.pageDir, h.bitmap]
  split
  · exact hframes _ _ _
  · rfl

/-- The new pages of a call are the same in both states if and only if the frames that it takes for
them are. -/
theorem newPages_same_iff (hm₁ : m₁.Ready background) (hm₂ : m₂.Ready background)
    (h : SameButFree m₁ m₂) (c : AreaCall) :
    FreshPagesSame m₁ m₂ c ↔
      ∀ x ∈ c.newFrames m₁, m₂.paging.memory x.2 = m₁.paging.memory x.2 := by
  have hframes := h.newFrames hm₁.sound hm₂.sound c
  have htakes₁ := areaStep_takesFrames hm₁ c
  have htakes₂ := areaStep_takesFrames hm₂ c
  rw [hframes] at htakes₂
  have hdir₁ := areaStep_pageDir m₁ c
  have hdir₂ := areaStep_pageDir m₂ c
  unfold FreshPagesSame
  generalize areaStep m₁ c = r₁ at htakes₁ hdir₁ ⊢
  generalize areaStep m₂ c = r₂ at htakes₂ hdir₂ ⊢
  constructor
  · intro hsame x hx
    obtain ⟨hlt, hnone, e₁, he₁, hframe₁, hmem₁⟩ := htakes₁.mapped x hx
    obtain ⟨-, -, e₂, he₂, hframe₂, hmem₂⟩ := htakes₂.mapped x hx
    obtain ⟨e₂', he₂', hmem⟩ := hsame x.1 hlt hnone e₁ (by rwa [TaskMemory.userPte, hdir₁])
    rw [TaskMemory.userPte, hdir₂, he₂, Option.some.injEq] at he₂'
    subst he₂'
    rwa [hframe₁, hframe₂, hmem₁, hmem₂] at hmem
  · intro hsame n hn hnone e₁ he₁
    rw [TaskMemory.userPte, hdir₁] at he₁
    have hmem : ∃ x ∈ c.newFrames m₁, x.1 = n := by
      by_contra hnew
      have hstill := htakes₁.others n hn hnone fun x hx heq => hnew ⟨x, hx, heq⟩
      rw [he₁] at hstill
      cases hstill
    obtain ⟨x, hx, rfl⟩ := hmem
    obtain ⟨-, -, e₁', he₁', hframe₁, hmem₁⟩ := htakes₁.mapped x hx
    obtain ⟨-, -, e₂, he₂, hframe₂, hmem₂⟩ := htakes₂.mapped x hx
    rw [he₁, Option.some.injEq] at he₁'
    subst he₁'
    refine ⟨e₂, by rwa [TaskMemory.userPte, hdir₂], ?_⟩
    rw [hframe₁, hframe₂, hmem₁, hmem₂, hsame x hx]

end

/-- A fresh task whose first free frame was used by another one. -/
def usedBefore : TaskMemory :=
  { freshTask with
    paging := ⟨freshTask.paging.memoryBitmap, fun page _ => if page = 513 then 0x53454352 else 0⟩ }

lemma usedBefore_ready : usedBefore.Ready below2MB := by
  refine ⟨⟨freshTask_sound.low, freshTask_sound.dir, ?_⟩, Or.inl rfl⟩
  exact (@Paging.sound_empty below2MB usedBefore.paging.memory 512 (by decide) (by decide)
    (fun _ _ => BitVec.zero_and) fun _ => BitVec.zero_and).1

lemma sameButFree_usedBefore : SameButFree freshTask usedBefore where
  bitmap := rfl
  memory page hused := by
    have hfree : ¬ freshTask.paging.memoryBitmap.Used 513 := by decide
    have hne : page ≠ 513 := fun heq => hfree (heq ▸ hused)
    funext i
    exact if_neg hne
  pageDir := rfl
  base := rfl
  current := rfl
  next := rfl

/-- The task reads what the other one has left. -/
theorem newPages_differ :
    freshTask.Ready below2MB ∧ usedBefore.Ready below2MB ∧ SameButFree freshTask usedBefore ∧
      ¬ FreshPagesSame freshTask usedBefore (.mapping (.mmap 0 0x1000 3)) := by
  have hentry : (areaStep freshTask (.mapping (.mmap 0 0x1000 3))).1.userPte 0x50000 =
      some (withWritable (userEntry (pageAddress 513)) true) := by decide +kernel
  have hentry' : (areaStep usedBefore (.mapping (.mmap 0 0x1000 3))).1.userPte 0x50000 =
      some (withWritable (userEntry (pageAddress 513)) true) := by decide +kernel
  refine ⟨freshTask_ready, usedBefore_ready, sameButFree_usedBefore, fun h => ?_⟩
  obtain ⟨e, he, hmem⟩ := h 0x50000 (by decide) (freshTask_nothing _) _ hentry
  rw [hentry', Option.some.injEq] at he
  subst he
  have hword := congrFun hmem 0
  revert hword
  decide +kernel

/-- A call that takes no frames. -/
theorem newPages_same_iff_fresh :
    freshTask.Ready below2MB ∧ usedBefore.Ready below2MB ∧ SameButFree freshTask usedBefore ∧
      (FreshPagesSame freshTask usedBefore (.mapping (.munmap 0x50000000 0x1000)) ↔
        ∀ x ∈ AreaCall.newFrames freshTask (.mapping (.munmap 0x50000000 0x1000)),
          usedBefore.paging.memory x.2 = freshTask.paging.memory x.2) :=
  ⟨freshTask_ready, usedBefore_ready, sameButFree_usedBefore,
    newPages_same_iff freshTask_ready usedBefore_ready sameButFree_usedBefore _⟩

end NeuroSpark
