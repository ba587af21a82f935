import NeuroSpark.Mem.AddressSpace

/-!
# What is done to one address space leaves the others alone

While one address space is built, changed or destroyed, everything that was in use besides it is its
background. The functions of `paging.c`, and those of `syscall.c`, `usermode.c` and `task.c` that
call them, keep the address space accounted for and write to no page of the background.
-/

namespace NeuroSpark

/-- One round of `map_user_pages_for_range`: an address that is mapped is passed over. -/
def mapRangePage (s : Paging) (pd virtAddr : BitVec 32) : Paging :=
  if resolveUserPhys s pd virtAddr ≠ 0 then s else mapFreshPage s pd virtAddr

/-- A page that the loader maps, at a user address, and what it puts there. -/
structure ImagePage where
  virtAddr : BitVec 32
  words : Fin 1024 → BitVec 32
  inRange : userVaddrMin ≤ virtAddr ∧ virtAddr ≤ userVaddrMax

/-- One round of `map_user_range`. Unlike `map_user_pages_for_range` it maps over what is mapped,
and does not free the page when there is none for the table. -/
def mapImagePage (pd : BitVec 32) (s : Paging) (page : ImagePage) : Except Paging Paging :=
  let r := s.allocPage
  if r.2 = 0 then .error r.1
  else
    let m := mapUserPage r.1 pd r.2 page.virtAddr
    if m.2 then .ok (m.1.setPage (frameOf r.2) page.words) else .error m.1

/-- `exec_user_image` up to `finalize_user_process`. The image is seen as the pages that are mapped
for it, the stack first; an image with `valid` off is refused once they are. -/
def loadUserImage (k : KernelLayout) (s : Paging) (pages : List ImagePage) (valid : Bool) :
    Paging × BitVec 32 :=
  let r := createUserPageDirectory k s
  if r.2 = 0 then (r.1, 0)
  else
    match pages.foldlM (mapImagePage r.2) r.1 with
    | .ok s => if valid then (s, r.2) else (destroyUserAddressSpace k s r.2, 0)
    | .error s => (destroyUserAddressSpace k s r.2, 0)

/-- The stack of `create_task`: four pages, taken one by one, with the first frame of the task
16 KB above the first of them. -/
def createTaskStack (s : Paging) (entry : BitVec 32) : Paging × Bool :=
  let r := s.allocPage
  if r.2 = 0 then (r.1, false)
  else
    let s := r.1.allocPage.1.allocPage.1.allocPage.1
    let top := frameOf r.2 + 3
    let frame := fun i : Fin 1024 =>
      if (i : Nat) = 1023 then entry else if 1019 ≤ (i : Nat) then 0 else s.memory top i
    (s.setPage top frame, true)

/-- The word of a page that an address points at. -/
def wordIndex (virtAddr : BitVec 32) : Fin 1024 := Fin.ofNat 1024 (virtAddr >>> 2).toNat

/-- An entry that lets user code write. -/
def userWritable (e : BitVec 32) : Bool :=
  e &&& pagePresent ≠ 0 && e &&& pageUser ≠ 0 && e &&& pageRw ≠ 0

/-- A store of user code: it faults unless the page is mapped for the user and writable. -/
def storeUser (s : Paging) (pdPhys virtAddr v : BitVec 32) : Paging :=
  let pde := s.memory (frameOf pdPhys) (pdIndex virtAddr)
  let pte := s.memory (frameOf pde) (ptIndex virtAddr)
  if userWritable pde && userWritable pte then s.setWord (frameOf pte) (wordIndex virtAddr) v
  else s

/-- The pages of `keep` are in `s'` what they are in `s`. -/
def Paging.SameOn (keep : Nat → Prop) (s s' : Paging) : Prop :=
  ∀ page, keep page → s'.memory page = s.memory page

namespace Paging

variable {keep : Nat → Prop} {s s' s'' : Paging}

lemma SameOn.of_memory (h : s'.memory = s.memory) : s.SameOn keep s' := fun page _ => by rw [h]

lemma SameOn.refl (s : Paging) : s.SameOn keep s := fun _ _ => rfl

section

variable (h : s.SameOn keep s')
include h

lemma SameOn.trans (h' : s'.SameOn keep s'') : s.SameOn keep s'' :=
  fun page hpage => (h' page hpage).trans (h page hpage)

lemma SameOn.mono {keep' : Nat → Prop}
    (hkeep : ∀ page, keep' page → keep page) : s.SameOn keep' s' :=
  fun page hpage => h page (hkeep page hpage)

lemma SameOn.setPage {page : Nat} (hpage : ¬ keep page)
    (words : Fin 1024 → BitVec 32) : s.SameOn keep (s'.setPage page words) := by
  intro q hq
  have hne : q ≠ page := fun heq => hpage (heq ▸ hq)
  rw [memory_setPage, if_neg hne, h q hq]

lemma SameOn.setWord {page : Nat} (hpage : ¬ keep page) (i : Fin 1024)
    (v : BitVec 32) : s.SameOn keep (s'.setWord page i v) := h.setPage hpage _

lemma SameOn.freePage (addr : BitVec 32) :
    s.SameOn keep (s'.freePage addr) := h.trans (SameOn.of_memory (memory_freePage s' addr))

end

lemma memory_allocPage (s : Paging) : s.allocPage.1.memory = s.memory := by
  rw [allocPage]

end Paging

/-! ### Operations of an address space -/

section

variable {base : Pmm} {s : Paging} {dir : Nat} {pd : BitVec 32}

section

variable (hs : s.Sound base dir)
include hs

lemma Paging.Sound.not_base (slot : Slot) {page : Nat}
    (h : s.owned dir slot = some page) : ¬ base.Used page := hs.accounts.fresh h

lemma Paging.Sound.used_of_base {page : Nat} (h : base.Used page) :
    s.memoryBitmap.Used page := (hs.accounts.used_iff page).2 (Or.inl h)

/-- The address space of `dir` is accounted for before and after. What was in use besides it is as
it was and still in use, perhaps with pages that were lost. -/
def Paging.Keeps (base : Pmm) (dir : Nat) (s s' : Paging) : Prop :=
  ∃ base' : Pmm, (∀ page, base.Used page → base'.Used page) ∧ s'.Sound base' dir ∧
    s.SameOn base.Used s'

omit hs in
lemma Paging.Keeps.of_sound {s' : Paging} (hs' : s'.Sound base dir)
    (hsame : s.SameOn base.Used s') : s.Keeps base dir s' := ⟨base, fun _ h => h, hs', hsame⟩

variable {va : BitVec 32}

lemma mapUserPage_sameOn {t : Paging} (hmem : t.memory = s.memory)
    (hused : ∀ q, s.memoryBitmap.Used q → t.memoryBitmap.Used q) (hdir : frameOf pd = dir)
    (hi : UserIndex (pdIndex va)) (addr : BitVec 32) :
    s.SameOn base.Used (mapUserPage t pd addr va).1 := by
  have hsame : s.SameOn base.Used t := Paging.SameOn.of_memory hmem
  simp only [mapUserPage, frameOf_and_pageMask, hdir]
  split_ifs with hpd hpresent hnone
  · exact hsame
  · exact hsame.trans (Paging.SameOn.of_memory t.memory_allocPage)
  · rcases t.allocPage_cases with halloc | ⟨table, htable, hfree, halloc⟩
    · simp [halloc] at hnone
    · simp only [halloc, frameOf_pageAddress htable]
      have htable' : ¬ base.Used table := fun h => hfree (hused _ (hs.used_of_base h))
      have hmem' : (Paging.mk (pmmSetPage t.memoryBitmap (table * pageSize)) t.memory).memory =
          s.memory := hmem
      have hsame' : s.SameOn base.Used
          (Paging.mk (pmmSetPage t.memoryBitmap (table * pageSize)) t.memory) :=
        Paging.SameOn.of_memory hmem'
      have hdir' : ¬ base.Used dir := hs.not_base .directory rfl
      exact ((hsame'.setPage htable' _).setWord hdir' _ _).setWord htable' _ _
  · refine hsame.setWord ?_ _ _
    rw [hmem] at hpresent ⊢
    refine hs.not_base (.table (pdIndex va)) ?_
    change s.tableOf dir (pdIndex va) = _
    rw [Paging.tableOf, if_pos ⟨hi, hpresent⟩]

lemma mapFreshPage_keeps (hlow : ∀ page < 256, base.Used page) (hpd : pd &&& pageMask ≠ 0)
    (hdir : frameOf pd = dir) (hlo : userVaddrMin ≤ va) (hhi : va ≤ userVaddrMax) :
    s.Keeps base dir (mapFreshPage s pd va) := by
  obtain ⟨base', hbase, -, hs'⟩ := mapFreshPage_sound hs hlow hpd hdir hlo hhi
  refine ⟨base', hbase, hs', ?_⟩
  rcases s.allocPage_cases with halloc | ⟨page, hpage, hfree, halloc⟩
  · simp only [mapFreshPage, halloc, if_true]
    exact Paging.SameOn.refl s
  · have hmapped := mapUserPage_sameOn (t := ⟨pmmSetPage s.memoryBitmap (page * pageSize), s.memory⟩)
      hs rfl (fun q hq => (used_pmmSetPage _ hpage q).2 (Or.inr hq)) hdir (userIndex_pdIndex hlo hhi)
      (pageAddress page)
    simp only [mapFreshPage, halloc]
    split_ifs
    · exact Paging.SameOn.of_memory rfl
    · exact hmapped
    · exact hmapped.trans (Paging.SameOn.of_memory rfl)

lemma mapRangePage_keeps (hlow : ∀ page < 256, base.Used page) (hpd : pd &&& pageMask ≠ 0)
    (hdir : frameOf pd = dir) (hlo : userVaddrMin ≤ va) (hhi : va ≤ userVaddrMax) :
    s.Keeps base dir (mapRangePage s pd va) := by
  unfold mapRangePage
  split_ifs
  · exact Paging.Keeps.of_sound hs (Paging.SameOn.refl s)
  · exact mapFreshPage_keeps hs hlow hpd hdir hlo hhi

lemma Paging.Sound.tableOf_of_user {i : Fin 1024} (hpresent : s.memory dir i &&& pagePresent ≠ 0)
    (huser : s.memory dir i &&& pageUser ≠ 0) :
    s.tableOf dir i = some (frameOf (s.memory dir i)) := by
  have hi : UserIndex i := by
    by_contra hi
    exact huser (hs.kernelDir i hi)
  rw [Paging.tableOf, if_pos ⟨hi, hpresent⟩]

lemma unmapUserPage_keeps (hlow : ∀ page < 256, base.Used page) (hdir : frameOf pd = dir)
    (va : BitVec 32) :
    s.Keeps base dir (unmapUserPage s pd va).1 := by
  refine Paging.Keeps.of_sound (unmapUserPage_sound hs hlow hdir va) ?_
  simp only [unmapUserPage, frameOf_and_pageMask, hdir]
  split_ifs with hpd hpde hpte
  · exact Paging.SameOn.refl s
  · exact Paging.SameOn.refl s
  · exact Paging.SameOn.refl s
  · obtain ⟨hpresent, huser⟩ := not_or.1 hpde
    have htable := hs.tableOf_of_user hpresent huser
    have hsame : ∀ addr, s.SameOn base.Used (s.freePage addr) :=
      fun addr => (Paging.SameOn.refl s).freePage addr
    exact (hsame _).setWord (hs.not_base (.table _) htable) _ _

lemma Paging.Sound.setFlags {i : Fin 1024} {table : Nat} (htable : s.tableOf dir i = some table)
    {j : Fin 1024} {v : BitVec 32} (hpresent : s.memory table j &&& pagePresent ≠ 0)
    (hv : v &&& pagePresent ≠ 0) (huser : v &&& pageUser ≠ 0)
    (hframe : frameOf v = frameOf (s.memory table j)) :
    (s.setWord table j v).Sound base dir := by
  have hpage : (s.setWord table j v).pageOf table j = s.owned dir (.page i j) := by
    simp only [Paging.owned, htable, Option.bind_some]
    rw [Paging.pageOf, Paging.memory_setWord, if_pos rfl, Function.update_self, if_pos hv, hframe,
      Paging.pageOf, if_pos hpresent]
  have hown : (s.setWord table j v).owned dir = s.owned dir := by
    rw [hs.owned_setWord htable j v, hpage, Function.update_eq_self]
  refine hs.of_setWord htable (fun _ => huser) ?_
  exact hs.accounts.congr (fun slot => congrFun hown slot) fun _ => Iff.rfl

omit hs in
lemma setRw_flags {e v : BitVec 32} (hv : v = e ||| pageRw ∨ v = e &&& ~~~pageRw) :
    v &&& pagePresent = e &&& pagePresent ∧ v &&& pageUser = e &&& pageUser ∧
      frameOf v = frameOf e := by
  unfold frameOf
  rcases hv with rfl | rfl
  · simp [BitVec.and_or_distrib_right, pageRw, pagePresent, pageUser, pageMask]
  · simp [BitVec.and_assoc, pageRw, pagePresent, pageUser, pageMask]

lemma setUserPageWritable_keeps (hdir : frameOf pd = dir) (va : BitVec 32)
    (writable : Bool) : s.Keeps base dir (setUserPageWritable s pd va writable).1 := by
  simp only [setUserPageWritable, frameOf_and_pageMask, hdir]
  split
  · exact Paging.Keeps.of_sound hs (Paging.SameOn.refl s)
  split
  · exact Paging.Keeps.of_sound hs (Paging.SameOn.refl s)
  split
  · exact Paging.Keeps.of_sound hs (Paging.SameOn.refl s)
  rename_i hpde hpte
  obtain ⟨hpresent, huser⟩ := not_or.1 hpde
  obtain ⟨hpresent', huser'⟩ := not_or.1 hpte
  have htable := hs.tableOf_of_user hpresent huser
  set pte := s.memory (frameOf (s.memory dir (pdIndex va))) (ptIndex va)
  have hv : (if writable then pte ||| pageRw else pte &&& ~~~pageRw) = pte ||| pageRw ∨
      (if writable then pte ||| pageRw else pte &&& ~~~pageRw) = pte &&& ~~~pageRw := by
    cases writable <;> simp
  obtain ⟨hp, hu, hf⟩ := setRw_flags hv
  refine Paging.Keeps.of_sound (hs.setFlags htable hpresent' ?_ ?_ hf)
    ((Paging.SameOn.refl s).setWord (hs.not_base (.table _) htable) _ _)
  · rwa [hp]
  · rwa [hu]

lemma Paging.Sound.setPage_mapped {i j : Fin 1024} {page : Nat}
    (hslot : s.owned dir (.page i j) = some page) (words : Fin 1024 → BitVec 32) :
    (s.setPage page words).Sound base dir := by
  have hne : ∀ (slot : Slot) {q : Nat}, s.owned dir slot = some q → slot ≠ .page i j → q ≠ page :=
    fun _ _ hq hne h => hne (hs.accounts.unique (h ▸ hq) hslot)
  exact hs.setPage_of_ne (hne .directory rfl (by simp))
    (fun k _ h => hne (.table k) h (by simp)) words

lemma storeUser_keeps (hdir : frameOf pd = dir) (va v : BitVec 32) :
    s.Keeps base dir (storeUser s pd va v) := by
  simp only [storeUser, hdir]
  split_ifs with hw
  · simp only [Bool.and_eq_true, userWritable, decide_eq_true_eq] at hw
    obtain ⟨⟨⟨hpresent, huser⟩, -⟩, ⟨hpresent', -⟩, -⟩ := hw
    have htable := hs.tableOf_of_user hpresent huser
    have hslot : s.owned dir (.page (pdIndex va) (ptIndex va)) =
        some (frameOf (s.memory (frameOf (s.memory dir (pdIndex va))) (ptIndex va))) := by
      simp only [Paging.owned, htable, Option.bind_some]
      rw [Paging.pageOf, if_pos hpresent']
    exact Paging.Keeps.of_sound (hs.setPage_mapped hslot _)
      ((Paging.SameOn.refl s).setPage (hs.not_base _ hslot) _)
  · exact Paging.Keeps.of_sound hs (Paging.SameOn.refl s)

lemma mapImagePage_keeps (hlow : ∀ page < 256, base.Used page) (hpd : pd &&& pageMask ≠ 0)
    (hdir : frameOf pd = dir) (p : ImagePage) {s' : Paging}
    (hs' : mapImagePage pd s p = .ok s' ∨ mapImagePage pd s p = .error s') :
    s.Keeps base dir s' := by
  obtain ⟨hlo, hhi⟩ := p.inRange
  rcases s.allocPage_cases with halloc | ⟨page, hpage, hfree, halloc⟩
  · simp only [mapImagePage, halloc, if_true, reduceCtorEq, false_or, Except.error.injEq] at hs'
    subst hs'
    exact Paging.Keeps.of_sound hs (Paging.SameOn.refl s)
  obtain ⟨-, hpage0⟩ := low_of_not_used (fun q hq => hs.used_of_base (hlow q hq)) hfree
  have hbase : ¬ base.Used page := fun h => hfree (hs.used_of_base h)
  simp only [mapImagePage, halloc, pageAddress_ne_zero hpage hpage0, if_false,
    frameOf_pageAddress hpage] at hs'
  have hsame := mapUserPage_sameOn (t := ⟨pmmSetPage s.memoryBitmap (page * pageSize), s.memory⟩) hs
    rfl (fun q hq => (used_pmmSetPage _ hpage q).2 (Or.inr hq)) hdir (userIndex_pdIndex hlo hhi)
    (pageAddress page)
  rcases mapUserPage_sound hs hlow hpd hdir hlo hhi hpage hfree rfl with
    hfail | ⟨hok, base', hbase', -, hmapped, hslot⟩
  · -- no page for the table: the page itself is lost
    rw [hfail] at hs'
    simp only [Bool.false_eq_true, if_false, reduceCtorEq, false_or, Except.error.injEq] at hs'
    subst hs'
    exact ⟨_, fun q hq => (used_pmmSetPage base hpage q).2 (Or.inr hq), hs.takeOther hpage hfree,
      Paging.SameOn.of_memory rfl⟩
  · simp only [hok, if_true, reduceCtorEq, or_false, Except.ok.injEq] at hs'
    subst hs'
    exact ⟨base', hbase', hmapped.setPage_mapped hslot _, hsame.setPage hbase _⟩

end

lemma Paging.Keeps.trans {s' s'' : Paging} (h : s.Keeps base dir s')
    (h' : ∀ base' : Pmm, (∀ page, base.Used page → base'.Used page) → s'.Sound base' dir →
      s'.Keeps base' dir s'') : s.Keeps base dir s'' := by
  obtain ⟨base', hbase, hs', hsame⟩ := h
  obtain ⟨base'', hbase', hs'', hsame'⟩ := h' base' hbase hs'
  exact ⟨base'', fun page hpage => hbase' page (hbase page hpage), hs'',
    hsame.trans (hsame'.mono hbase)⟩

end

/-! ### The life of a directory -/

/-- The directory of a process: not the kernel's, and not the `0` of a call that failed. -/
structure OwnDirectory (k : KernelLayout) (pd : BitVec 32) : Prop where
  aligned : pd &&& pageMask = pd
  ne_zero : pd ≠ 0
  ne_kernel : pd ≠ k.pageDirectory

/-- What was in use when an address space was built is as it was. The building failed, or the
address space is accounted for. -/
def Paging.Builds (k : KernelLayout) (s : Paging) (r : Paging × BitVec 32) : Prop :=
  r.2 = 0 ∧ (∀ page, s.memoryBitmap.Used page → r.1.memoryBitmap.Used page) ∧
      s.SameOn s.memoryBitmap.Used r.1 ∨
    OwnDirectory k r.2 ∧ s.Keeps s.memoryBitmap (frameOf r.2) r.1

section

variable {k : KernelLayout} {base : Pmm} {s : Paging} {pd : BitVec 32} {dir : Nat} {s' : Paging}

/-- The kernel's image is in use, and its directory has no entry for user addresses. -/
structure Paging.Booted (k : KernelLayout) (s : Paging) : Prop where
  reserved : ∀ page, page * pageSize < k.kernelEnd → s.memoryBitmap.Used page
  noUser : ∀ i, UserIndex i → s.memory (frameOf k.pageDirectory) i &&& pagePresent = 0

def Paging.Booted.pmm (hs : s.Booted k) : ReservedPmm k := ⟨s.memoryBitmap, hs.reserved⟩

lemma Paging.Booted.low (hs : s.Booted k) : ∀ page < 256, s.memoryBitmap.Used page := hs.pmm.low

lemma createUserPageDirectory_builds (hs : s.Booted k) :
    createUserPageDirectory k s = (s, 0) ∨
      OwnDirectory k (createUserPageDirectory k s).2 ∧
        (createUserPageDirectory k s).1.Sound s.memoryBitmap
          (frameOf (createUserPageDirectory k s).2) ∧
        (∀ i, (createUserPageDirectory k s).1.tableOf
          (frameOf (createUserPageDirectory k s).2) i = none) ∧
        s.SameOn s.memoryBitmap.Used (createUserPageDirectory k s).1 := by
  obtain ⟨hsound, hnone⟩ := AddressSpace.sound_create hs.pmm s.memory hs.noUser
  have heta : (⟨s.memoryBitmap, s.memory⟩ : Paging) = s := rfl
  simp only [AddressSpace.Sound, AddressSpace.owned, AddressSpace.create, Paging.Booted.pmm,
    heta] at hsound hnone
  rcases s.allocPage_cases with halloc | ⟨page, hpage, hfree, halloc⟩
  · left
    simp [createUserPageDirectory, halloc]
  · right
    obtain ⟨-, hpage0⟩ := low_of_not_used hs.low hfree
    have hpd : (createUserPageDirectory k s).2 = pageAddress page := by
      simp only [createUserPageDirectory, halloc, pageAddress_ne_zero hpage hpage0, if_false]
    have haligned := pageAddress_and_pageMask hpage
    rcases hsound with ⟨hzero, -⟩ | ⟨hzero, -, hkernel, hs'⟩
    · exact absurd (hpd.symm.trans hzero) (pageAddress_ne_zero hpage hpage0)
    · refine ⟨⟨?_, hzero, ?_⟩, hs', fun i => ?_, ?_⟩
      · rw [hpd, haligned]
      · intro heq
        refine hkernel ?_
        rw [hpd, haligned, ← hpd, heq]
      · have hi := hnone (.table i) (by simp)
        rwa [if_neg hzero] at hi
      · simp only [createUserPageDirectory, halloc, pageAddress_ne_zero hpage hpage0, if_false,
          frameOf_pageAddress hpage]
        exact Paging.SameOn.setPage (Paging.SameOn.of_memory rfl) hfree _

lemma destroyPage_sameOn {keep : Nat → Prop} {pde : BitVec 32} (hpde : ¬ keep (frameOf pde))
    (l : List (Fin 1024)) (s : Paging) : s.SameOn keep (l.foldl (destroyPage pde) s) := by
  induction l generalizing s with
  | nil => exact Paging.SameOn.refl s
  | cons j l ih =>
    refine Paging.SameOn.trans ?_ (ih _)
    unfold destroyPage
    dsimp only
    split_ifs
    · exact ((Paging.SameOn.refl s).freePage _).setWord hpde _ _
    · exact Paging.SameOn.refl s

lemma destroyTable_sameOn (hs : s.Sound base dir) (hdir : frameOf pd = dir)
    (i : Fin 1024) : s.SameOn base.Used (destroyTable pd s i) := by
  simp only [destroyTable, hdir]
  split_ifs with hpde
  · exact Paging.SameOn.refl s
  · obtain ⟨hpresent, huser⟩ := not_or.1 hpde
    have htable := hs.not_base (.table i) (hs.tableOf_of_user hpresent huser)
    have hself : ¬ base.Used dir := hs.not_base .directory rfl
    have hpages := destroyPage_sameOn htable (List.finRange 1024) s
    exact (hpages.freePage _).setWord hself _ _

lemma foldl_destroyTable_sameOn (hs : s.Sound base dir) (hlow : ∀ page < 256, base.Used page)
    (hdir : frameOf pd = dir) {l : List (Fin 1024)}
    (hl : ∀ i ∈ l, UserIndex i) : s.SameOn base.Used (l.foldl (destroyTable pd) s) := by
  induction l generalizing s with
  | nil => exact Paging.SameOn.refl s
  | cons i l ih =>
    have hs' := (destroyTable_sound hs hlow hdir (hl i (List.mem_cons_self ..))).1
    exact (destroyTable_sameOn hs hdir i).trans
      (ih hs' fun i hi => hl i (List.mem_cons_of_mem _ hi))

lemma destroyUserAddressSpace_leaves (hs : s.Sound base (frameOf pd))
    (hlow : ∀ page < 256, base.Used page) (hpd : OwnDirectory k pd) :
    (destroyUserAddressSpace k s pd).memoryBitmap = base ∧
      s.SameOn base.Used (destroyUserAddressSpace k s pd) := by
  have hmask := hpd.aligned
  refine ⟨memoryBitmap_destroyUserAddressSpace hs hlow (by rw [hmask]; exact hpd.ne_zero)
    (by rw [hmask]; exact hpd.ne_kernel) rfl, ?_⟩
  rw [destroyUserAddressSpace, hmask, if_neg (not_or.2 ⟨hpd.ne_zero, hpd.ne_kernel⟩)]
  refine (foldl_destroyTable_sameOn hs hlow rfl fun i hi => ?_).freePage pd
  simpa using (List.mem_filter.1 hi).2

lemma Paging.Builds.of_destroyed (hs : s.Booted k) (h : s.Keeps s.memoryBitmap (frameOf pd) s')
    (hpd : OwnDirectory k pd) :
    s.Builds k (destroyUserAddressSpace k s' pd, 0) := by
  obtain ⟨base', hbase, hs', hsame⟩ := h
  obtain ⟨hbits, hsame'⟩ :=
    destroyUserAddressSpace_leaves hs' (fun page hpage => hbase page (hs.low page hpage)) hpd
  refine Or.inl ⟨rfl, fun page hpage => ?_, hsame.trans (hsame'.mono hbase)⟩
  rw [hbits]
  exact hbase page hpage

lemma loadUserImage_builds (hs : s.Booted k) (pages : List ImagePage) (valid : Bool) :
    s.Builds k (loadUserImage k s pages valid) := by
  rcases createUserPageDirectory_builds hs with hfail | ⟨hpd, hcreated, -, hsame⟩
  · simp only [loadUserImage, hfail, if_true]
    exact Or.inl ⟨rfl, fun _ h => h, Paging.SameOn.refl s⟩
  obtain ⟨r, hr⟩ : ∃ r, r = createUserPageDirectory k s := ⟨_, rfl⟩
  rw [← hr] at hpd hcreated hsame
  have hmask : r.2 &&& pageMask ≠ 0 := by
    rw [hpd.aligned]
    exact hpd.ne_zero
  -- the pages are mapped one after the other
  have hloop := Machine.foldlM_invariant (f := mapImagePage r.2)
    (I := fun _ => s.Keeps s.memoryBitmap (frameOf r.2))
    (E := s.Keeps s.memoryBitmap (frameOf r.2))
    (fun s₁ p _ s₂ h₁ h₂ => h₁.trans fun base' hbase hs₁ => mapImagePage_keeps hs₁
      (fun page hpage => hbase page (hs.low page hpage)) hmask rfl p (Or.inl h₂))
    (fun s₁ p _ s₂ h₁ h₂ => h₁.trans fun base' hbase hs₁ => mapImagePage_keeps hs₁
      (fun page hpage => hbase page (hs.low page hpage)) hmask rfl p (Or.inr h₂))
    (l := pages) (Paging.Keeps.of_sound hcreated hsame)
  simp only [loadUserImage, ← hr, hpd.ne_zero, if_false]
  cases hresult : pages.foldlM (mapImagePage r.2) r.1 with
  | error s' => exact Paging.Builds.of_destroyed hs (hloop.2 s' hresult) hpd
  | ok s' =>
    cases valid with
    | false => exact Paging.Builds.of_destroyed hs (hloop.1 s' hresult) hpd
    | true => exact Or.inr ⟨hpd, hloop.1 s' hresult⟩

/-- One round of the inner loop fills at most one empty slot of the table. -/
lemma clonePage_sound (hs : s.Sound base dir) (hlow : ∀ page < 256, base.Used page) {i j : Fin 1024}
    {srcPt dstPt : BitVec 32} (htable : s.tableOf dir i = some (frameOf dstPt))
    (hempty : s.owned dir (.page i j) = none)
    (hs' : clonePage srcPt dstPt s j = .ok s' ∨ clonePage srcPt dstPt s j = .error s') :
    s'.Sound base dir ∧ s.SameOn base.Used s' ∧ s'.memory dir = s.memory dir ∧
      ∀ j' ≠ j, s'.owned dir (.page i j') = s.owned dir (.page i j') := by
  unfold clonePage at hs'
  dsimp only at hs'
  split at hs'
  · simp only [Except.ok.injEq, reduceCtorEq, or_false] at hs'
    subst hs'
    exact ⟨hs, Paging.SameOn.refl s, rfl, fun _ _ => rfl⟩
  rcases s.allocPage_cases with halloc | ⟨page, hpage, hfree, halloc⟩
  · simp only [halloc, if_true, reduceCtorEq, Except.error.injEq, false_or] at hs'
    subst hs'
    exact ⟨hs, Paging.SameOn.refl s, rfl, fun _ _ => rfl⟩
  obtain ⟨-, hpage0⟩ := low_of_not_used (fun q hq => hs.used_of_base (hlow q hq)) hfree
  have hbase : ¬ base.Used page := fun h => hfree (hs.used_of_base h)
  simp only [halloc, pageAddress_ne_zero hpage hpage0, if_false, frameOf_pageAddress hpage,
    Except.ok.injEq, reduceCtorEq, or_false] at hs'
  subst hs'
  generalize s.memory (frameOf (s.memory (frameOf srcPt) j)) = words
  -- the copy goes to a page that is free, and then into the table
  have hs₁ := hs.setPage_free hfree words
  have hnotPage : ∀ (slot : Slot) {q : Nat}, s.owned dir slot = some q → q ≠ page :=
    fun _ _ hq h => hfree (h ▸ hs.accounts.used_of_own hq)
  have hdirMem : (s.setPage page words).memory dir = s.memory dir := by
    rw [Paging.memory_setPage, if_neg (hnotPage .directory rfl)]
  have htableMem : (s.setPage page words).memory (frameOf dstPt) = s.memory (frameOf dstPt) := by
    rw [Paging.memory_setPage, if_neg (hnotPage (.table i) htable)]
  have htable₁ := (Paging.tableOf_congr hdirMem i).trans htable
  have hpages : ∀ l, (s.setPage page words).owned dir (.page i l) = s.owned dir (.page i l) := by
    intro l
    simp only [Paging.owned, htable₁, htable, Option.bind_some]
    exact Paging.pageOf_congr htableMem l
  have hne := hs.table_ne_dir htable
  refine ⟨hs₁.mapInTable htable₁ ((hpages j).trans hempty) hpage hfree rfl
    (used_pmmSetPage _ hpage), ?_, ?_, fun l hl => ?_⟩
  · have hout := hs.not_base (.table i) htable
    exact (((Paging.SameOn.refl s).setPage hbase words).trans (Paging.SameOn.of_memory rfl)).setWord
      hout _ _
  · rw [Paging.memory_setWord, if_neg hne.symm]
    exact hdirMem
  · have hupdate := congrFun (hs₁.owned_setWord htable₁ j (userEntry (pageAddress page))) (.page i l)
    rw [Function.update_of_ne (by simpa using hl), hpages l] at hupdate
    exact hupdate

/-- One round of the outer loop fills at most one entry of the directory. -/
lemma cloneTable_sound (hs : s.Sound base dir) (hlow : ∀ page < 256, base.Used page)
    {srcPd dstPd : BitVec 32} (hdir : frameOf dstPd = dir) {i : Fin 1024} (hi : UserIndex i)
    (hempty : s.tableOf dir i = none)
    (hs' : cloneTable srcPd dstPd s i = .ok s' ∨ cloneTable srcPd dstPd s i = .error s') :
    s'.Sound base dir ∧ s.SameOn base.Used s' ∧ ∀ k ≠ i, s'.tableOf dir k = s.tableOf dir k := by
  unfold cloneTable at hs'
  dsimp only at hs'
  split at hs'
  · simp only [Except.ok.injEq, reduceCtorEq, or_false] at hs'
    subst hs'
    exact ⟨hs, Paging.SameOn.refl s, fun _ _ => rfl⟩
  rcases s.allocPage_cases with halloc | ⟨table, htable, hfree, halloc⟩
  · simp only [halloc, if_true, reduceCtorEq, Except.error.injEq, false_or] at hs'
    subst hs'
    exact ⟨hs, Paging.SameOn.refl s, fun _ _ => rfl⟩
  obtain ⟨-, htable0⟩ := low_of_not_used (fun q hq => hs.used_of_base (hlow q hq)) hfree
  have hbase : ¬ base.Used table := fun h => hfree (hs.used_of_base h)
  simp only [halloc, pageAddress_ne_zero htable htable0, if_false, frameOf_pageAddress htable,
    hdir] at hs'
  obtain ⟨hs₁, htableOf, hpages⟩ := hs.addTable hi hempty htable hfree
    (t := ⟨pmmSetPage s.memoryBitmap (table * pageSize), s.memory⟩) rfl (used_pmmSetPage _ htable)
  have hself : ¬ base.Used dir := hs.not_base .directory rfl
  have hne : dir ≠ table := fun h => hfree (h ▸ hs.accounts.used_of_own (s := .directory) rfl)
  generalize hs₁eq : (((Paging.mk (pmmSetPage s.memoryBitmap (table * pageSize)) s.memory).setPage
    table fun _ => 0).setWord dir i (userEntry (pageAddress table))) = s₁ at *
  have hsame₁ : s.SameOn base.Used s₁ := by
    rw [← hs₁eq]
    exact (Paging.SameOn.setPage (Paging.SameOn.of_memory rfl) hbase _).setWord hself _ _
  have hother₁ : ∀ k ≠ i, s₁.tableOf dir k = s.tableOf dir k := by
    intro k hk
    rw [← hs₁eq, Paging.tableOf, Paging.memory_setWord, if_pos rfl, Function.update_of_ne hk,
      Paging.memory_setPage, if_neg hne, Paging.tableOf]
  generalize s.memory (frameOf srcPd) i = srcPde at hs'
  let I : List (Fin 1024) → Paging → Prop := fun l t => t.Sound base dir ∧
    s₁.SameOn base.Used t ∧ t.memory dir = s₁.memory dir ∧ l.Nodup ∧
    ∀ j ∈ l, t.owned dir (.page i j) = none
  let E : Paging → Prop := fun t => t.Sound base dir ∧ s₁.SameOn base.Used t ∧
    t.memory dir = s₁.memory dir
  have hround : ∀ t j l t', I (j :: l) t →
      (clonePage srcPde (pageAddress table) t j = .ok t' ∨
        clonePage srcPde (pageAddress table) t j = .error t') → I l t' := by
    rintro t j l t' ⟨ht, hsame, hmem, hnodup, hnone⟩ ht'
    have htableT : t.tableOf dir i = some (frameOf (pageAddress table)) := by
      rw [Paging.tableOf_congr hmem, htableOf, frameOf_pageAddress htable]
    obtain ⟨ht₁, hsame₂, hmem₂, hrest⟩ :=
      clonePage_sound ht hlow htableT (hnone j (List.mem_cons_self ..)) ht'
    refine ⟨ht₁, hsame.trans hsame₂, hmem₂.trans hmem, (List.nodup_cons.1 hnodup).2, fun l' hl' => ?_⟩
    have hl'j : l' ≠ j := fun h => (List.nodup_cons.1 hnodup).1 (h ▸ hl')
    rw [hrest l' hl'j]
    exact hnone l' (List.mem_cons_of_mem _ hl')
  have hloop := Machine.foldlM_invariant (f := clonePage srcPde (pageAddress table)) (I := I) (E := E)
    (fun t j l t' ht ht' => hround t j l t' ht (Or.inl ht'))
    (fun t j l t' ht ht' => by
      obtain ⟨h₁, h₂, h₃, -⟩ := hround t j l t' ht (Or.inr ht')
      exact ⟨h₁, h₂, h₃⟩)
    (l := List.finRange 1024)
    ⟨hs₁, Paging.SameOn.refl s₁, rfl, List.nodup_finRange 1024, fun j _ => hpages j⟩
  have hresult : E s' := by
    rcases hs' with hs' | hs'
    · obtain ⟨h₁, h₂, h₃, -⟩ := hloop.1 s' hs'
      exact ⟨h₁, h₂, h₃⟩
    · exact hloop.2 s' hs'
  obtain ⟨h₁, h₂, h₃⟩ := hresult
  exact ⟨h₁, hsame₁.trans h₂, fun k hk => (Paging.tableOf_congr h₃ k).trans (hother₁ k hk)⟩

lemma cloneUserAddressSpace_builds (hs : s.Booted k) (srcPd : BitVec 32) :
    s.Builds k (cloneUserAddressSpace k s srcPd) := by
  unfold cloneUserAddressSpace
  dsimp only
  split
  · exact Or.inl ⟨rfl, fun _ h => h, Paging.SameOn.refl s⟩
  rcases createUserPageDirectory_builds hs with hfail | ⟨hpd, hcreated, hempty, hsame⟩
  · simp only [hfail, if_true]
    exact Or.inl ⟨rfl, fun _ h => h, Paging.SameOn.refl s⟩
  obtain ⟨r, hr⟩ : ∃ r, r = createUserPageDirectory k s := ⟨_, rfl⟩
  rw [← hr] at hpd hcreated hsame hempty ⊢
  rw [if_neg hpd.ne_zero, hpd.aligned]
  let I : List (Fin 1024) → Paging → Prop := fun l t => t.Sound s.memoryBitmap (frameOf r.2) ∧
    s.SameOn s.memoryBitmap.Used t ∧ l.Nodup ∧
    ∀ i ∈ l, UserIndex i ∧ t.tableOf (frameOf r.2) i = none
  let E : Paging → Prop := fun t => s.Keeps s.memoryBitmap (frameOf r.2) t
  generalize srcPd &&& pageMask = srcPd
  have hround : ∀ t i l t', I (i :: l) t →
      (cloneTable srcPd r.2 t i = .ok t' ∨ cloneTable srcPd r.2 t i = .error t') → I l t' := by
    rintro t i l t' ⟨ht, hsame, hnodup, hnone⟩ ht'
    obtain ⟨hi, hnoneI⟩ := hnone i (List.mem_cons_self ..)
    obtain ⟨ht₁, hsame₁, hrest⟩ := cloneTable_sound ht hs.low rfl hi hnoneI ht'
    refine ⟨ht₁, hsame.trans hsame₁, (List.nodup_cons.1 hnodup).2, fun k hk => ?_⟩
    have hki : k ≠ i := fun h => (List.nodup_cons.1 hnodup).1 (h ▸ hk)
    obtain ⟨huser, hnoneK⟩ := hnone k (List.mem_cons_of_mem _ hk)
    exact ⟨huser, (hrest k hki).trans hnoneK⟩
  have hloop := Machine.foldlM_invariant (f := cloneTable srcPd r.2) (I := I) (E := E)
    (fun t i l t' ht ht' => hround t i l t' ht (Or.inl ht'))
    (fun t i l t' ht ht' => by
      obtain ⟨h₁, h₂, -⟩ := hround t i l t' ht (Or.inr ht')
      exact Paging.Keeps.of_sound h₁ h₂)
    (l := (List.finRange 1024).filter UserIndex)
    ⟨hcreated, hsame, (List.nodup_finRange 1024).filter _,
      fun i hi => ⟨by simpa using (List.mem_filter.1 hi).2, hempty i⟩⟩
  split
  · rename_i t ht
    obtain ⟨h₁, h₂, -⟩ := hloop.1 t ht
    exact Or.inr ⟨hpd, Paging.Keeps.of_sound h₁ h₂⟩
  · rename_i t ht
    exact Paging.Builds.of_destroyed hs (hloop.2 t ht) hpd

lemma used_allocPage {q : Nat} (h : s.memoryBitmap.Used q) : s.allocPage.1.memoryBitmap.Used q := by
  rcases s.allocPage_cases with halloc | ⟨page, hpage, -, halloc⟩
  · rwa [halloc]
  · rw [halloc]
    exact (used_pmmSetPage _ hpage q).2 (Or.inr h)

/-- The first page that `create_task` finds for a stack has three more free pages after it. -/
def StackFits (s : Paging) : Prop :=
  ∀ i ≤ 3, ¬ s.memoryBitmap.Used (frameOf s.allocPage.2 + i)

lemma createTaskStack_used {q : Nat} (entry : BitVec 32) (h : s.memoryBitmap.Used q) :
    (createTaskStack s entry).1.memoryBitmap.Used q := by
  unfold createTaskStack
  dsimp only
  split_ifs
  · exact used_allocPage h
  · rw [Paging.memoryBitmap_setPage]
    exact used_allocPage (used_allocPage (used_allocPage (used_allocPage h)))

lemma createTaskStack_sameOn (entry : BitVec 32) (hfits : StackFits s) :
    s.SameOn s.memoryBitmap.Used (createTaskStack s entry).1 := by
  unfold createTaskStack
  dsimp only
  split_ifs
  · exact Paging.SameOn.of_memory s.memory_allocPage
  · refine Paging.SameOn.setPage (Paging.SameOn.of_memory ?_) (hfits 3 le_rfl) _
    simp only [Paging.memory_allocPage]

end

end NeuroSpark
