import NeuroSpark.Mem.Cloning
import NeuroSpark.Mem.Images

/-!
# The pages of a program

Loading takes pages, maps them and clears them, one after the other. A page is lost in two ways: when
it is mapped over, and when it was taken and there is none for its table.
-/

namespace NeuroSpark

/-! ### The pages of an image -/

def stackPage : Nat := pageNo (userVaStackTop - 4096)
def codePage : Nat := pageNo userVaCode

/-- The pages that an address space takes: its directory, its pages and their tables. -/
def loadNeed (pages : List Nat) : Nat := 1 + pages.length + (pages.map dirIndex).toFinset.card

lemma loadNeed_append_singleton (pages : List Nat) (n : Nat) :
    loadNeed (pages ++ [n]) =
      loadNeed pages + if ∀ m ∈ pages, dirIndex m ≠ dirIndex n then 2 else 1 := by
  have hset : ((pages ++ [n]).map dirIndex).toFinset =
      insert (dirIndex n) (pages.map dirIndex).toFinset := by
    simp
  have hmem : (dirIndex n ∉ (pages.map dirIndex).toFinset) ↔
      ∀ m ∈ pages, dirIndex m ≠ dirIndex n := by
    simp
  unfold loadNeed
  rw [hset, List.length_append, List.length_singleton]
  split_ifs with hnew
  · rw [Finset.card_insert_of_notMem (hmem.2 hnew)]
    omega
  · rw [Finset.insert_eq_of_mem (not_not.1 fun h => hnew (hmem.1 h))]
    omega

/-! ### One page -/

section

variable {base : Pmm} {s s' : Paging} {dir supply n : Nat} {pd : BitVec 32} {done : List Nat}

/-- The pages `done` were mapped one after the other. A page is lost just when one of them was
mapped twice. -/
structure Paging.Loaded (base : Pmm) (dir supply : Nat) (done : List Nat) (s : Paging) : Prop where
  sound : ∃ base' : Pmm, (∀ q, base.Used q → base'.Used q) ∧ (base' = base ↔ done.Nodup) ∧
    s.Sound base' dir
  mapped : ∀ n < 1048576, (s.userPte dir n).isSome = true ↔ n ∈ done
  tables : ∀ i, s.tableOf dir i = none ↔ ∀ n ∈ done, dirIndex n ≠ i
  supply : s.memoryBitmap.freePages.card + loadNeed done = supply

/-- What was in use before is as it was, and so are the kernel's entries of the directory. -/
def Paging.SameKernel (base : Pmm) (dir : Nat) (s s' : Paging) : Prop :=
  s.SameOn base.Used s' ∧ ∀ i, ¬ UserIndex i → s'.memory dir i = s.memory dir i

lemma Paging.SameKernel.trans {s'' : Paging} (h : s.SameKernel base dir s')
    (h' : s'.SameKernel base dir s'') : s.SameKernel base dir s'' :=
  ⟨h.1.trans h'.1, fun i hi => (h'.2 i hi).trans (h.2 i hi)⟩

lemma Paging.Changes.sameKernel {base' : Pmm} {touched lost : Nat → Prop}
    (h : s.Changes base' dir touched lost s') (hbase : ∀ q, base.Used q → base'.Used q) :
    s.SameKernel base dir s' := ⟨h.same.mono hbase, h.kernel⟩

/-- A page was lost for good. -/
def Paging.Loses (base : Pmm) (dir : Nat) (s : Paging) : Prop :=
  ∃ base' : Pmm, (∀ q, base.Used q → base'.Used q) ∧ base' ≠ base ∧ s.Sound base' dir

lemma Pmm.pmmSetPage_ne {base base' : Pmm} {page : Nat} (hpage : page < pageCount)
    (hfree : ¬ base.Used page) (hbase : ∀ q, base.Used q → base'.Used q) :
    pmmSetPage base' (page * pageSize) ≠ base ∧
      ∀ q, base.Used q → (pmmSetPage base' (page * pageSize)).Used q := by
  have hused := used_pmmSetPage base' hpage
  refine ⟨fun h => hfree ?_, fun q hq => (hused q).2 (Or.inr (hbase q hq))⟩
  rw [← h]
  exact (hused page).2 (Or.inl rfl)

lemma Paging.Loaded.setPage (h : s.Loaded base dir supply done) (hn : n < 1048576) {e : BitVec 32}
    (he : s.userPte dir n = some e) (words : Fin 1024 → BitVec 32) :
    (s.setPage (frameOf e) words).Loaded base dir supply done := by
  obtain ⟨base', hbase, hnodup, hs⟩ := h.sound
  have hchanges := hs.changes_setPage hn he words
  obtain ⟨-, hdir, -⟩ := hs.apart_of_userPte he
  have hdirMem : (s.setPage (frameOf e) words).memory dir = s.memory dir := by
    rw [Paging.memory_setPage, if_neg hdir.symm]
  refine ⟨⟨base', hbase, hnodup, hchanges.sound⟩, fun m hm => ?_, fun i => ?_, h.supply⟩
  · rw [hchanges.outside m hm id]
    exact h.mapped m hm
  · rw [Paging.tableOf_congr hdirMem]
    exact h.tables i

lemma Paging.Sound.forget (hs : s.Sound base dir) (hlow : ∀ page < 256, base.Used page)
    (hn : n < 1048576) {e : BitVec 32} (he : s.userPte dir n = some e) {table : Nat}
    (htable : s.tableOf dir (dirIndex n) = some table) :
    (s.setWord table (tableIndex n) 0).Sound (pmmSetPage base (frameOf e * pageSize)) dir ∧
      (∀ m < 1048576, (s.setWord table (tableIndex n) 0).userPte dir m =
        if m = n then none else s.userPte dir m) ∧
      ∀ i, (s.setWord table (tableIndex n) 0).tableOf dir i = s.tableOf dir i := by
  obtain ⟨table', htable', -, hentry, hpresent, -⟩ := hs.of_userPte he
  obtain rfl : table' = table := Option.some.inj (htable'.symm.trans htable)
  subst hentry
  have hlost := hs.loseEntry hlow htable hpresent
  refine ⟨hlost, fun m hm => ?_, Paging.tableOf_congr ?_⟩
  · rw [hs.userPte_setWord hn htable rfl hlost hm,
      if_pos (show (0 : BitVec 32) &&& pagePresent = 0 from rfl)]
  · exact hs.memory_setWord htable _ _

lemma mapUserPage_forget (hs : s.Sound base dir) (hpd : pd &&& pageMask ≠ 0)
    (hdir : frameOf pd = dir) (hn : n < 1048576) {table : Nat}
    (htable : s.tableOf dir (dirIndex n) = some table) (b : Pmm) (addr : BitVec 32) :
    mapUserPage ⟨b, s.memory⟩ pd addr (pageAddress n) =
      mapUserPage ⟨b, (s.setWord table (tableIndex n) 0).memory⟩ pd addr (pageAddress n) := by
  have hdirMem := hs.memory_setWord htable (tableIndex n) 0
  have hentry := htable
  rw [Paging.tableOf] at hentry
  split_ifs at hentry with hpresent
  have hframe := Option.some.inj hentry
  simp only [mapUserPage, hpd, if_false, frameOf_and_pageMask, hdir, pdIndex_pageAddress hn,
    ptIndex_pageAddress hn, hdirMem, hpresent.2, hframe]
  simp [Paging.setWord, Paging.setPage]

/-- `s₀` is `s` with nothing mapped at page `n`. If something was, its page is lost. -/
structure Paging.MakesRoom (base : Pmm) (dir : Nat) (s : Paging) (done : List Nat) (n : Nat)
    (base' : Pmm) (s₀ : Paging) : Prop where
  grows : ∀ q, base.Used q → base'.Used q
  nodup : base' = base ↔ (done ++ [n]).Nodup
  sound : s₀.Sound base' dir
  bitmap : s₀.memoryBitmap = s.memoryBitmap
  empty : s₀.userPte dir n = none
  others : ∀ m < 1048576, m ≠ n → s₀.userPte dir m = s.userPte dir m
  tables : ∀ i, s₀.tableOf dir i = s.tableOf dir i
  same : s.SameOn (s.Apart dir) s₀
  kernel : ∀ i, ¬ UserIndex i → s₀.memory dir i = s.memory dir i

lemma Paging.Loaded.makeRoom (h : s.Loaded base dir supply done)
    (hlow : ∀ page < 256, base.Used page) (hpd : pd &&& pageMask ≠ 0) (hdir : frameOf pd = dir)
    (hn : n < 1048576) :
    ∃ (base' : Pmm) (s₀ : Paging), s.MakesRoom base dir done n base' s₀ ∧
      ∀ b addr, mapUserPage ⟨b, s.memory⟩ pd addr (pageAddress n) =
        mapUserPage ⟨b, s₀.memory⟩ pd addr (pageAddress n) := by
  obtain ⟨base', hbase, hnodup, hs⟩ := h.sound
  cases he : s.userPte dir n with
  | none =>
    have hnew : n ∉ done := fun hmem => by simpa [he] using (h.mapped n hn).2 hmem
    have hlist : (done ++ [n]).Nodup ↔ n ∉ done ∧ done.Nodup :=
      List.nodup_append_comm.trans List.nodup_cons
    have hiff : base' = base ↔ (done ++ [n]).Nodup := by rw [hnodup, hlist, and_iff_right hnew]
    exact ⟨base', s, ⟨hbase, hiff, hs, rfl, he, fun _ _ _ => rfl, fun _ => rfl,
      Paging.SameOn.refl s, fun _ _ => rfl⟩, fun _ _ => rfl⟩
  | some e =>
    have hmem : n ∈ done := (h.mapped n hn).1 (by rw [he]; rfl)
    obtain ⟨table, htable, -⟩ := hs.of_userPte he
    obtain ⟨hs₀, hpte, htables⟩ :=
      hs.forget (fun page hpage => hbase page (hlow page hpage)) hn he htable
    have hslot := hs.owned_of_userPte he
    obtain ⟨hne, hgrows⟩ :=
      Pmm.pmmSetPage_ne (hs.lt_pageCount hslot) (fun hq => hs.not_base _ hslot (hbase _ hq)) hbase
    refine ⟨_, _, ⟨hgrows, iff_of_false hne ?_, hs₀, rfl, ?_, fun m hm hmn => ?_, htables,
      (hs.sameOn_setWord htable _ _).1, fun i _ => by rw [(hs.sameOn_setWord htable _ _).2]⟩,
      mapUserPage_forget hs hpd hdir hn htable⟩
    · simp [List.nodup_append, hmem]
    · rw [hpte n hn, if_pos rfl]
    · rw [hpte m hm, if_neg hmn]

/-- Some pages are mapped to pages that were free, which are cleared. The other pages stay, with
what is in them. -/
structure Paging.MapsZero (dir : Nat) (pages : Nat → Prop) (s s' : Paging) : Prop where
  fresh : ∀ m < 1048576, pages m → ∃ e, s'.userPte dir m = some e ∧
    s'.memory (frameOf e) = (fun _ => 0) ∧ ¬ s.memoryBitmap.Used (frameOf e)
  kept : ∀ m < 1048576, ¬ pages m → s'.userPte dir m = s.userPte dir m ∧
    ∀ e, s.userPte dir m = some e → s'.memory (frameOf e) = s.memory (frameOf e)
  grows : ∀ q, s.memoryBitmap.Used q → s'.memoryBitmap.Used q

section

variable {base' : Pmm} {s₀ s' : Paging} {page : Nat}

lemma Paging.MakesRoom.loaded (hroom : s.MakesRoom base dir done n base' s₀)
    (h : s.Loaded base dir supply done) (hmaps : s₀.MapsFree base' dir n page s')
    (hsupply : s'.memoryBitmap.freePages.card + loadNeed (done ++ [n]) = supply) :
    s'.Loaded base dir supply (done ++ [n]) := by
  refine ⟨⟨base', hroom.grows, hroom.nodup, hmaps.changes.sound⟩, fun m hm => ?_, fun i => ?_,
    hsupply⟩
  · rw [List.mem_append, List.mem_singleton]
    by_cases hmn : m = n
    · subst hmn
      exact iff_of_true (by rw [hmaps.entry]; rfl) (Or.inr rfl)
    · rw [hmaps.changes.outside m hm hmn, hroom.others m hm hmn, h.mapped m hm, or_iff_left hmn]
  · rw [hmaps.tables, hroom.tables, h.tables]
    simp [or_imp, forall_and, eq_comm]

lemma Paging.MakesRoom.mapsZero (hroom : s.MakesRoom base dir done n base' s₀)
    (h : s.Loaded base dir supply done) (hmaps : s₀.MapsFree base' dir n page s') (hn : n < 1048576)
    (hpage : page < pageCount) (hfree : ¬ s.memoryBitmap.Used page)
    (hgrows : ∀ q, s.memoryBitmap.Used q → s'.memoryBitmap.Used q) :
    s.MapsZero dir (· = n) (s'.setPage page fun _ => 0) := by
  have hframe : frameOf (userEntry (pageAddress page)) = page := by
    rw [frameOf_userEntry, frameOf_pageAddress hpage]
  have hcleared := hmaps.changes.sound.changes_setPage hn hmaps.entry fun _ => 0
  rw [hframe] at hcleared
  refine ⟨fun m hm hmn => ?_, fun m hm hmn => ⟨?_, fun e he => ?_⟩, hgrows⟩
  · subst hmn
    refine ⟨_, (hcleared.outside m hm id).trans hmaps.entry, ?_, by rwa [hframe]⟩
    rw [hframe, Paging.memory_setPage, if_pos rfl]
  · rw [hcleared.outside m hm id, hmaps.changes.outside m hm hmn, hroom.others m hm hmn]
  · -- what is in page `m` stays while room is made, while `n` is mapped and while it is cleared
    obtain ⟨base'', -, -, hs⟩ := h.sound
    have hkept := hroom.same _ (hs.apart_of_userPte he)
    obtain ⟨e₁, he₁, hframe₁, hmap⟩ :=
      hmaps.changes.kept m hm id e ((hroom.others m hm hmn).trans he)
    obtain ⟨-, -, -, hclear⟩ := hcleared.kept m hm hmn e₁ he₁
    rw [hframe₁] at hclear
    exact hclear.trans (hmap.trans hkept)

end

lemma Paging.MakesRoom.sameKernel (hroom : s.MakesRoom base dir done n base' s₀)
    (h : s.Loaded base dir supply done) (hmaps : s₀.MapsFree base' dir n page s') (hn : n < 1048576)
    (hpage : page < pageCount) :
    s.SameKernel base dir (s'.setPage page fun _ => 0) := by
  obtain ⟨base'', hbase, -, hs⟩ := h.sound
  have hframe : frameOf (userEntry (pageAddress page)) = page := by
    rw [frameOf_userEntry, frameOf_pageAddress hpage]
  have hcleared := hmaps.changes.sound.changes_setPage hn hmaps.entry fun _ => 0
  rw [hframe] at hcleared
  have hmade : s.SameKernel base dir s₀ :=
    ⟨hroom.same.mono fun q hq => hs.apart_of_base (hbase q hq), hroom.kernel⟩
  exact (hmade.trans (hmaps.changes.sameKernel hroom.grows)).trans
    (hcleared.sameKernel hroom.grows)

section

variable (h : s.Loaded base dir supply done) (hlow : ∀ page < 256, base.Used page)
include h hlow

/-- One more page is mapped. Otherwise there was no page for it, or none for its table. -/
lemma mapZeroPage_maps (hpd : pd &&& pageMask ≠ 0) (hdir : frameOf pd = dir) (hn : UserPage n) :
    (∃ s', mapZeroPage pd s n = .ok s' ∧ s'.Loaded base dir supply (done ++ [n]) ∧
        s.MapsZero dir (· = n) s' ∧ s.SameKernel base dir s') ∨
      ∃ s', mapZeroPage pd s n = .error (.refused, s') ∧
        (supply = loadNeed done ∧ s' = s ∨
          supply = loadNeed done + 1 ∧ supply < loadNeed (done ++ [n]) ∧ s'.Loses base dir) := by
  obtain ⟨base', s₀, hroom, hover⟩ := h.makeRoom hlow hpd hdir hn.lt
  have hlow₀ : ∀ page < 256, base'.Used page := fun page hpage => hroom.grows page (hlow page hpage)
  have hlowS : ∀ page < 256, s.memoryBitmap.Used page := fun page hpage => by
    rw [← hroom.bitmap]
    exact hroom.sound.used_of_base (hlow₀ page hpage)
  have hcost : loadNeed (done ++ [n]) = loadNeed done + s₀.pageCost dir n := by
    rw [loadNeed_append_singleton, Paging.pageCost, hroom.tables, if_congr (h.tables _) rfl rfl]
  have hsupply := h.supply
  rcases s.allocPage_cases with halloc | ⟨page, hpage, hfree, halloc⟩
  · right
    have hcard := Paging.freePages_of_allocPage hlowS halloc
    exact ⟨s, by simp [mapZeroPage, halloc], Or.inl ⟨by omega, rfl⟩⟩
  have hgrows : ∀ q, s.memoryBitmap.Used q →
      (mapUserPage s.allocPage.1 pd s.allocPage.2 (pageAddress n)).1.memoryBitmap.Used q :=
    fun q hq => used_mapUserPage _ _ _ _ (s.used_allocPage hq)
  obtain ⟨-, hpage0⟩ := low_of_not_used hlowS hfree
  have hcard := Finset.card_pos.2 ⟨page, Pmm.mem_freePages.2 ⟨hpage, hfree⟩⟩
  have hfree₀ : ¬ s₀.memoryBitmap.Used page := by rwa [hroom.bitmap]
  simp only [mapZeroPage, halloc, pageAddress_ne_zero hpage hpage0, if_false, hover] at hgrows ⊢
  rcases mapUserPage_unmapped hroom.sound hlow₀ hpd hdir hn hroom.empty hpage hfree₀
    (by rw [hroom.bitmap]) with ⟨hfail, hshort⟩ | ⟨s', hok, hmaps, htaken⟩
  · right
    rw [hroom.bitmap] at hshort
    refine ⟨_, by rw [hfail]; rfl, Or.inr ?_⟩
    have hle : s₀.pageCost dir n ≤ 2 := by
      unfold Paging.pageCost
      split_ifs <;> omega
    obtain ⟨hne, hgrows⟩ := Pmm.pmmSetPage_ne hpage
      (fun hq => hfree₀ (hroom.sound.used_of_base (hroom.grows _ hq))) hroom.grows
    refine ⟨by omega, by omega, _, hgrows, hne, ?_⟩
    rw [← hroom.bitmap]
    exact hroom.sound.takeOther hpage hfree₀
  · left
    rw [hok] at hgrows
    rw [hroom.bitmap] at htaken
    have hloaded := (hroom.loaded h hmaps (by omega)).setPage hn.lt hmaps.entry fun _ => 0
    rw [frameOf_userEntry] at hloaded
    rw [hok, if_pos rfl, frameOf_pageAddress hpage]
    rw [frameOf_pageAddress hpage] at hloaded
    exact ⟨_, rfl, hloaded, hroom.mapsZero h hmaps hn.lt hpage hfree hgrows,
      hroom.sameKernel h hmaps hn.lt hpage⟩

lemma mapZeroPage_cases (hpd : pd &&& pageMask ≠ 0) (hdir : frameOf pd = dir) (hn : UserPage n) :
    (∃ s', mapZeroPage pd s n = .ok s' ∧ s'.Loaded base dir supply (done ++ [n]) ∧
        s.SameKernel base dir s') ∨
      ∃ s', mapZeroPage pd s n = .error (.refused, s') ∧
        (supply = loadNeed done ∧ s' = s ∨
          supply = loadNeed done + 1 ∧ supply < loadNeed (done ++ [n]) ∧ s'.Loses base dir) :=
  (mapZeroPage_maps h hlow hpd hdir hn).imp_left fun ⟨s', hok, hs', _, hsame⟩ =>
    ⟨s', hok, hs', hsame⟩

omit h hlow in
lemma userPage_of_user {va : BitVec 32} (hmin : ¬ va < userVaddrMin) (hmax : ¬ userVaddrMax < va) :
    UserPage (pageNo va) := by
  have hmin' : ¬ va.toNat < 0x40000000 := hmin
  have hmax' : ¬ 0xBFFFFFFF < va.toNat := hmax
  unfold UserPage pageNo pageSize
  omega

lemma Paging.Loaded.resolve (hpd : pd &&& pageMask ≠ 0) (hdir : frameOf pd = dir) {va : BitVec 32}
    (hva : UserPage (pageNo va)) : resolveUserPhys s pd va = 0 ↔ pageNo va ∉ done := by
  obtain ⟨base', hbase, -, hs⟩ := h.sound
  rw [resolveUserPhys_eq_zero hs (fun page hpage => hbase page (hlow page hpage)) hpd hdir hva,
    ← h.mapped _ hva.lt, Option.not_isSome_iff_eq_none]

end

end

/-! ### Segments -/

lemma mem_rangePages {start size : BitVec 32} (h : isUserRange start size = true) {n : Nat} :
    n ∈ rangePages start size ↔
      pageNo start ≤ n ∧ n ≤ (start.toNat + size.toNat - 1) / pageSize := by
  rw [rangePages, List.mem_range'_1, pageNo, pageNo, toNat_last h]
  omega

lemma userPage_of_mem_rangePages {start size : BitVec 32} (h : isUserRange start size = true)
    {n : Nat} (hn : n ∈ rangePages start size) : UserPage n := by
  obtain ⟨-, hmin, hmax⟩ := (isUserRange_iff start size).1 h
  rw [mem_rangePages h] at hn
  unfold pageNo pageSize at hn
  unfold UserPage
  omega

lemma Elf32Phdr.range_of_accepted {size loadBias : BitVec 32} {ph : Elf32Phdr}
    (h : ph.accepted size loadBias = true) :
    isUserRange (ph.pVaddr + loadBias) ph.pMemsz = true ∧ ¬ ph.pMemsz < ph.pFilesz := by
  simp only [Elf32Phdr.accepted, decide_eq_true_eq] at h
  exact ⟨h.2.2.2.1, h.2.2.2.2.2⟩

section

variable {base : Pmm} {s : Paging} {dir supply : Nat} {pd : BitVec 32} {done : List Nat}

/-! ### The whole image -/

lemma pageNo_userVa : stackPage = 0x40001 ∧ codePage = 0x40000 := by decide

lemma setupUserStack_eq (h : s.Loaded base dir supply []) (hlow : ∀ page < 256, base.Used page)
    (hpd : pd &&& pageMask ≠ 0) (hdir : frameOf pd = dir) :
    setupUserStack pd s = mapZeroPage pd s stackPage := by
  have hstack : UserPage stackPage := by
    rw [pageNo_userVa.1]
    unfold UserPage
    omega
  have hguard : UserPage (pageNo (userVaStackTop - 8192)) := by
    change UserPage codePage
    rw [pageNo_userVa.2]
    unfold UserPage
    omega
  change (mapZeroPage pd s stackPage >>= fun s => _) = _
  rcases mapZeroPage_cases h hlow hpd hdir hstack with ⟨s', hok, hs', -⟩ | ⟨s', herror, -⟩
  · rw [hok]
    refine if_neg (not_not.2 ((hs'.resolve hlow hpd hdir hguard).2 ?_))
    decide
  · rw [herror]
    rfl

/-! ### A new directory -/

variable {k : KernelLayout}

lemma createUserPageDirectory_loaded (hs : s.Booted k) :
    s.memoryBitmap.freePages.card = 0 ∧ createUserPageDirectory k s = (s, 0) ∨
      OwnDirectory k (createUserPageDirectory k s).2 ∧
        (createUserPageDirectory k s).1.Loaded s.memoryBitmap
          (frameOf (createUserPageDirectory k s).2) s.memoryBitmap.freePages.card [] := by
  rcases s.allocPage_cases with halloc | ⟨page, hpage, hfree, halloc⟩
  · left
    exact ⟨Paging.freePages_of_allocPage hs.low halloc, by simp [createUserPageDirectory, halloc]⟩
  right
  obtain ⟨-, hpage0⟩ := low_of_not_used hs.low hfree
  have hcard := Pmm.card_freePages_take hpage hfree (used_pmmSetPage _ hpage)
  have hbits : (createUserPageDirectory k s).1.memoryBitmap =
      pmmSetPage s.memoryBitmap (page * pageSize) := by
    simp only [createUserPageDirectory, halloc, pageAddress_ne_zero hpage hpage0, if_false,
      Paging.memoryBitmap_setPage]
  rcases createUserPageDirectory_builds hs with hfail | ⟨hpd, hcreated, htables, -⟩
  · have hzero : (createUserPageDirectory k s).2 = pageAddress page := by
      simp only [createUserPageDirectory, halloc, pageAddress_ne_zero hpage hpage0, if_false]
    rw [hfail] at hzero
    exact absurd hzero.symm (pageAddress_ne_zero hpage hpage0)
  · refine ⟨hpd, ⟨_, fun _ h => h, iff_of_true rfl List.nodup_nil, hcreated⟩, fun n _ => ?_,
      fun i => iff_of_true (htables i) (by simp), ?_⟩
    · rw [hcreated.userPte_eq, htables]
      simp
    · rw [hbits]
      exact hcard

end

end NeuroSpark
