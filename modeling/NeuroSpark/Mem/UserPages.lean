import NeuroSpark.Mem.Frames
import NeuroSpark.Mem.UserRange

/-!
# The user pages of an address space

To a process its address space is a partial map from page numbers to entries, `Paging.userPte`, and
the contents of the pages in it. `Paging.Changes` says in these terms what an operation may do to
it.
-/

namespace NeuroSpark

variable {n : Nat}

/-- The page is in the user half of the address space. -/
def UserPage (n : Nat) : Prop := 0x40000 ≤ n ∧ n ≤ 0xBFFFF

lemma UserPage.lt (h : UserPage n) : n < 1048576 := by
  unfold UserPage at h
  omega

/-- Where the entry of a page is: its place in the directory and its place in the table. -/
def dirIndex (n : Nat) : Fin 1024 := Fin.ofNat 1024 (n / 1024)
def tableIndex (n : Nat) : Fin 1024 := Fin.ofNat 1024 n

lemma pdIndex_pageAddress (h : n < 1048576) : pdIndex (pageAddress n) = dirIndex n := by
  rw [pdIndex_eq, pageNo_pageAddress h, dirIndex]

lemma ptIndex_pageAddress (h : n < 1048576) : ptIndex (pageAddress n) = tableIndex n := by
  rw [ptIndex_eq, pageNo_pageAddress h, tableIndex]

lemma index_inj {n m : Nat} (hn : n < 1048576) (hm : m < 1048576) (hdir : dirIndex n = dirIndex m)
    (htable : tableIndex n = tableIndex m) : n = m := by
  have hdir : n / 1024 % 1024 = m / 1024 % 1024 := Fin.ext_iff.1 hdir
  have htable : n % 1024 = m % 1024 := Fin.ext_iff.1 htable
  omega

lemma userIndex_dirIndex (h : n < 1048576) : UserIndex (dirIndex n) ↔ UserPage n := by
  change 256 ≤ n / 1024 % 1024 ∧ n / 1024 % 1024 ≤ 767 ↔ _
  unfold UserPage
  omega

section

variable {base : Pmm} {s s' s'' : Paging} {dir n : Nat} {pd : BitVec 32}

/-! ### Entries -/

lemma Paging.userPte_def (s : Paging) (dir n : Nat) :
    s.userPte dir n =
      if s.memory dir (dirIndex n) &&& pagePresent = 0 ∨
        s.memory dir (dirIndex n) &&& pageUser = 0 then none
      else if s.memory (frameOf (s.memory dir (dirIndex n))) (tableIndex n) &&& pagePresent = 0 ∨
        s.memory (frameOf (s.memory dir (dirIndex n))) (tableIndex n) &&& pageUser = 0 then none
      else some (s.memory (frameOf (s.memory dir (dirIndex n))) (tableIndex n)) := rfl

/-- The entry of a page in its table, if it is a present one. -/
def Paging.entryOf (s : Paging) (table n : Nat) : Option (BitVec 32) :=
  if s.memory table (tableIndex n) &&& pagePresent = 0 then none
  else some (s.memory table (tableIndex n))

section

variable (hs : s.Sound base dir)
include hs

lemma Paging.Sound.userPte_eq (n : Nat) :
    s.userPte dir n = (s.tableOf dir (dirIndex n)).bind fun table => s.entryOf table n := by
  rw [Paging.userPte_def]
  split_ifs with hpde hpte
  · have hnone : s.tableOf dir (dirIndex n) = none := by
      rw [Paging.tableOf, if_neg]
      rintro ⟨hi, hpresent⟩
      exact hpde.elim hpresent (hs.userDir _ hi hpresent)
    rw [hnone, Option.bind_none]
  · obtain ⟨hpresent, huser⟩ := not_or.1 hpde
    have htable := hs.tableOf_of_user hpresent huser
    rw [htable, Option.bind_some, Paging.entryOf, if_pos]
    by_contra hp
    exact hpte.elim hp (hs.userTable _ _ htable _ hp)
  · obtain ⟨hpresent, huser⟩ := not_or.1 hpde
    rw [hs.tableOf_of_user hpresent huser, Option.bind_some]
    exact (if_neg (not_or.1 hpte).1).symm

omit hs in
lemma Paging.entryOf_congr {table : Nat} (h : s'.memory table = s.memory table) (n : Nat) :
    s'.entryOf table n = s.entryOf table n := by
  rw [Paging.entryOf, Paging.entryOf, h]

variable {e : BitVec 32}

lemma Paging.Sound.userPte_congr {base' : Pmm} (hs' : s'.Sound base' dir)
    (hdir : s'.memory dir = s.memory dir)
    (htables : ∀ i table, s.tableOf dir i = some table → s'.memory table = s.memory table) (n : Nat) :
    s'.userPte dir n = s.userPte dir n := by
  rw [hs'.userPte_eq, hs.userPte_eq, Paging.tableOf_congr hdir]
  cases htable : s.tableOf dir (dirIndex n) with
  | none => rfl
  | some table => exact Paging.entryOf_congr (htables _ table htable) n

lemma Paging.Sound.of_userPte (h : s.userPte dir n = some e) :
    ∃ table, s.tableOf dir (dirIndex n) = some table ∧ frameOf (s.memory dir (dirIndex n)) = table ∧
      s.memory table (tableIndex n) = e ∧ e &&& pagePresent ≠ 0 ∧ e &&& pageUser ≠ 0 := by
  rw [hs.userPte_eq] at h
  obtain ⟨table, htable, hentry⟩ := Option.bind_eq_some_iff.1 h
  rw [Paging.entryOf] at hentry
  split_ifs at hentry with hpresent
  rw [Option.some.injEq] at hentry
  subst hentry
  refine ⟨table, htable, ?_, rfl, hpresent, hs.userTable _ _ htable _ hpresent⟩
  rw [Paging.tableOf] at htable
  split_ifs at htable
  exact Option.some.inj htable

lemma Paging.Sound.owned_page (n : Nat) :
    s.owned dir (.page (dirIndex n) (tableIndex n)) = (s.userPte dir n).map frameOf := by
  rw [hs.userPte_eq, Option.map_bind]
  refine congrArg (Option.bind (s.tableOf dir (dirIndex n))) (funext fun table => ?_)
  rw [Paging.pageOf, Function.comp_apply, Paging.entryOf]
  split_ifs <;> first | rfl | contradiction

lemma Paging.Sound.owned_of_userPte (h : s.userPte dir n = some e) :
    s.owned dir (.page (dirIndex n) (tableIndex n)) = some (frameOf e) := by
  rw [hs.owned_page, h, Option.map_some]

lemma Paging.Sound.userPte_eq_none (h : n < 1048576)
    (huser : ¬ UserPage n) : s.userPte dir n = none := by
  rw [hs.userPte_eq, Paging.tableOf, if_neg fun hi => huser ((userIndex_dirIndex h).1 hi.1)]
  rfl

lemma Paging.Sound.frame_inj {m : Nat} (hn : n < 1048576) (hm : m < 1048576) {e e' : BitVec 32}
    (he : s.userPte dir n = some e) (he' : s.userPte dir m = some e')
    (hframe : frameOf e = frameOf e') : n = m := by
  have hslot := hs.accounts.unique (hs.owned_of_userPte he)
    (hframe ▸ hs.owned_of_userPte he')
  simp only [Slot.page.injEq] at hslot
  exact index_inj hn hm hslot.1 hslot.2

/-- What an operation on the address space has no reason to write to: pages in use that are not its
directory and not one of its tables. -/
def Paging.Apart (s : Paging) (dir page : Nat) : Prop :=
  s.memoryBitmap.Used page ∧ page ≠ dir ∧ ∀ i, s.tableOf dir i ≠ some page

lemma Paging.Sound.apart_of_base {page : Nat} (h : base.Used page) : s.Apart dir page := by
  refine ⟨hs.used_of_base h, ?_, fun i hi => hs.not_base (.table i) hi h⟩
  rintro rfl
  exact hs.not_base .directory rfl h

lemma Paging.Sound.apart_of_userPte (h : s.userPte dir n = some e) : s.Apart dir (frameOf e) := by
  have hslot := hs.owned_of_userPte h
  refine ⟨hs.accounts.used_of_own hslot, fun hdir => ?_, fun i hi => ?_⟩
  · have hself : s.owned dir .directory = some (frameOf e) := congrArg some hdir.symm
    cases hs.accounts.unique hslot hself
  · have htable : s.owned dir (.table i) = some (frameOf e) := hi
    cases hs.accounts.unique hslot htable

lemma Paging.Sound.userPte_setWord (hn : n < 1048576) {table : Nat}
    (htable : s.tableOf dir (dirIndex n) = some table) {v : BitVec 32} {t : Paging}
    (hmem : t.memory = s.memory) {base' : Pmm}
    (hs' : (t.setWord table (tableIndex n) v).Sound base' dir) {m : Nat} (hm : m < 1048576) :
    (t.setWord table (tableIndex n) v).userPte dir m =
      if m = n then (if v &&& pagePresent = 0 then none else some v) else s.userPte dir m := by
  obtain ⟨b, memory⟩ := t
  obtain rfl : memory = s.memory := hmem
  have hdir := hs.memory_setWord htable (tableIndex n) v
  rw [hs'.userPte_eq, hs.userPte_eq]
  change (((s.setWord table (tableIndex n) v).tableOf dir (dirIndex m)).bind fun table' =>
    (s.setWord table (tableIndex n) v).entryOf table' m) = _
  rw [Paging.tableOf_congr hdir]
  split_ifs with hmn hv
  · subst hmn
    simp [htable, Paging.entryOf, Paging.memory_setWord, hv]
  · subst hmn
    simp only [htable, Option.bind_some, Paging.entryOf, Paging.memory_setWord, if_true,
      Function.update_self]
    exact if_neg hv
  · cases htable' : s.tableOf dir (dirIndex m) with
    | none => rfl
    | some table' =>
      by_cases hsame : table' = table
      · subst hsame
        have hindex : tableIndex m ≠ tableIndex n := fun h =>
          hmn (index_inj hm hn (hs.table_inj htable' htable) h)
        simp [Paging.entryOf, Paging.memory_setWord, Function.update_of_ne hindex]
      · exact Paging.entryOf_congr (by rw [Paging.memory_setWord, if_neg hsame]) m

end

/-! ### What an operation may change -/

/-- From `s` to `s'` only the entries of `touched` pages change, and the pages that are mapped keep
their frames and their contents, except the `lost` ones. The rest of memory is as it was. -/
structure Paging.Changes (base : Pmm) (dir : Nat) (touched lost : Nat → Prop) (s s' : Paging) :
    Prop where
  sound : s'.Sound base dir
  same : s.SameOn base.Used s'
  kernel : ∀ i, ¬ UserIndex i → s'.memory dir i = s.memory dir i
  outside : ∀ n < 1048576, ¬ touched n → s'.userPte dir n = s.userPte dir n
  kept : ∀ n < 1048576, ¬ lost n → ∀ e, s.userPte dir n = some e → ∃ e',
    s'.userPte dir n = some e' ∧ frameOf e' = frameOf e ∧
      s'.memory (frameOf e) = s.memory (frameOf e)

variable {touched lost : Nat → Prop}

section

variable (hs : s.Sound base dir)
include hs

lemma Paging.Changes.refl : s.Changes base dir touched lost s where
  sound := hs
  same := Paging.SameOn.refl s
  kernel _ _ := rfl
  outside _ _ _ := rfl
  kept _ _ _ e he := ⟨e, he, rfl, rfl⟩

omit hs in
lemma Paging.Changes.trans (h : s.Changes base dir touched lost s')
    (h' : s'.Changes base dir touched lost s'') : s.Changes base dir touched lost s'' where
  sound := h'.sound
  same := h.same.trans h'.same
  kernel i hi := (h'.kernel i hi).trans (h.kernel i hi)
  outside n hn hout := (h'.outside n hn hout).trans (h.outside n hn hout)
  kept n hn hlost e he := by
    obtain ⟨e₁, he₁, hframe₁, hmem₁⟩ := h.kept n hn hlost e he
    obtain ⟨e₂, he₂, hframe₂, hmem₂⟩ := h'.kept n hn hlost e₁ he₁
    rw [hframe₁] at hframe₂ hmem₂
    exact ⟨e₂, he₂, hframe₂, hmem₂.trans hmem₁⟩

omit hs in
lemma Paging.Changes.mono {touched' lost' : Nat → Prop} (h : s.Changes base dir touched lost s')
    (htouched : ∀ n, touched n → touched' n) (hlost : ∀ n, lost n → lost' n) :
    s.Changes base dir touched' lost' s' where
  sound := h.sound
  same := h.same
  kernel := h.kernel
  outside n hn hout := h.outside n hn fun ht => hout (htouched n ht)
  kept n hn hout := h.kept n hn fun hl => hout (hlost n hl)

lemma Paging.Changes.of_entry (hs' : s'.Sound base dir) (hsame : s.SameOn (s.Apart dir) s')
    (hkernel : ∀ i, ¬ UserIndex i → s'.memory dir i = s.memory dir i) {v : Option (BitVec 32)}
    (hpte : ∀ m < 1048576, s'.userPte dir m = if m = n then v else s.userPte dir m)
    (hv : ¬ lost n → ∀ e, s.userPte dir n = some e → ∃ e', v = some e' ∧ frameOf e' = frameOf e) :
    s.Changes base dir (· = n) lost s' where
  sound := hs'
  same := hsame.mono fun _ => hs.apart_of_base
  kernel := hkernel
  outside m hm hne := by rw [hpte m hm, if_neg hne]
  kept m hm hlost e he := by
    have hmem := hsame _ (hs.apart_of_userPte he)
    rw [hpte m hm]
    split_ifs with hmn
    · subst hmn
      obtain ⟨e', he', hframe⟩ := hv hlost e he
      exact ⟨e', he', hframe, hmem⟩
    · exact ⟨e, he, rfl, hmem⟩

lemma Paging.Changes.of_same (hs' : s'.Sound base dir) (hsame : s.SameOn (s.Apart dir) s')
    (hkernel : ∀ i, ¬ UserIndex i → s'.memory dir i = s.memory dir i)
    (hpte : ∀ m, s'.userPte dir m = s.userPte dir m) : s.Changes base dir touched lost s' where
  sound := hs'
  same := hsame.mono fun _ => hs.apart_of_base
  kernel := hkernel
  outside m _ _ := hpte m
  kept m _ _ e he := ⟨e, (hpte m).trans he, rfl, hsame _ (hs.apart_of_userPte he)⟩

lemma Paging.Sound.changes_setPage (hn : n < 1048576) {e : BitVec 32}
    (he : s.userPte dir n = some e) (words : Fin 1024 → BitVec 32) :
    s.Changes base dir (fun _ => False) (· = n) (s.setPage (frameOf e) words) := by
  have hslot := hs.owned_of_userPte he
  have hs' := hs.setPage_mapped hslot words
  obtain ⟨-, hdir, htables⟩ := hs.apart_of_userPte he
  have hdirMem : (s.setPage (frameOf e) words).memory dir = s.memory dir := by
    rw [Paging.memory_setPage, if_neg hdir.symm]
  have hpte : ∀ k, (s.setPage (frameOf e) words).userPte dir k = s.userPte dir k :=
    hs.userPte_congr hs' hdirMem fun i table htable => by
      rw [Paging.memory_setPage, if_neg fun h => htables i (by rw [htable, h])]
  refine ⟨hs', (Paging.SameOn.refl s).setPage (hs.not_base _ hslot) _, fun i _ => ?_,
    fun k _ _ => hpte k, fun k hk hne e' he' => ⟨e', (hpte k).trans he', rfl, ?_⟩⟩
  · rw [hdirMem]
  · rw [Paging.memory_setPage, if_neg fun h => hne (hs.frame_inj hk hn he' he h)]

/-! ### The functions of `paging.c` -/

/-- `PAGE_RW` set or cleared. -/
def withWritable (e : BitVec 32) (writable : Bool) : BitVec 32 :=
  if writable then e ||| pageRw else e &&& ~~~pageRw

omit hs in
lemma withWritable_flags (e : BitVec 32) (writable : Bool) :
    withWritable e writable &&& pagePresent = e &&& pagePresent ∧
      withWritable e writable &&& pageUser = e &&& pageUser ∧
      frameOf (withWritable e writable) = frameOf e := by
  refine setRw_flags ?_
  cases writable
  · exact Or.inr rfl
  · exact Or.inl rfl

omit hs in
lemma withWritable_rw (e : BitVec 32) (writable : Bool) :
    withWritable e writable &&& pageRw ≠ 0 ↔ writable = true := by
  cases writable
  · simp [withWritable, BitVec.and_assoc]
  · simp [withWritable, BitVec.and_or_distrib_right, pageRw]

lemma Paging.Sound.sameOn_setWord {i : Fin 1024} {table : Nat}
    (htable : s.tableOf dir i = some table) (j : Fin 1024) (v : BitVec 32) :
    s.SameOn (s.Apart dir) (s.setWord table j v) ∧
      (s.setWord table j v).memory dir = s.memory dir := by
  exact ⟨(Paging.SameOn.refl s).setWord (fun hapart => hapart.2.2 i htable) j v,
    hs.memory_setWord htable j v⟩

omit hs in
lemma setUserPageWritable_eq (hpd : pd &&& pageMask ≠ 0) (hdir : frameOf pd = dir)
    (hn : n < 1048576) (writable : Bool) :
    setUserPageWritable s pd (pageAddress n) writable =
      match s.userPte dir n with
      | none => (s, false)
      | some e => (s.setWord (frameOf (s.memory dir (dirIndex n))) (tableIndex n)
          (withWritable e writable), true) := by
  simp only [setUserPageWritable, frameOf_and_pageMask, hdir, pdIndex_pageAddress hn,
    ptIndex_pageAddress hn, if_neg hpd]
  rw [Paging.userPte_def]
  cases writable
  · simp only [Bool.false_eq_true, if_false]
    split_ifs <;> rfl
  · simp only [if_true]
    split_ifs <;> rfl

lemma setUserPageWritable_some (hpd : pd &&& pageMask ≠ 0) (hdir : frameOf pd = dir)
    (hn : n < 1048576) (writable : Bool) {e : BitVec 32} (h : s.userPte dir n = some e) :
    ∃ s', setUserPageWritable s pd (pageAddress n) writable = (s', true) ∧
      s.Changes base dir (· = n) (fun _ => False) s' ∧
      s'.userPte dir n = some (withWritable e writable) := by
  obtain ⟨table, htable, hframe, he, hpresent, huser⟩ := hs.of_userPte h
  obtain ⟨hp, hu, hf⟩ := withWritable_flags e writable
  subst he
  obtain ⟨hsame, hdirMem⟩ :=
    hs.sameOn_setWord htable (tableIndex n) (withWritable (s.memory table (tableIndex n)) writable)
  have hs' := hs.setFlags htable hpresent (hp ▸ hpresent) (hu ▸ huser) hf
  have hpte := fun m hm => hs.userPte_setWord hn htable rfl hs' (m := m) hm
  rw [if_neg (hp ▸ hpresent)] at hpte
  refine ⟨_, ?_, Paging.Changes.of_entry hs hs' hsame (fun i _ => congrFun hdirMem i) hpte
    fun _ e he => ⟨_, rfl, ?_⟩, ?_⟩
  · rw [setUserPageWritable_eq hpd hdir hn, h, hframe]
  · rw [h, Option.some.injEq] at he
    rw [hf, he]
  · rw [hpte n hn, if_pos rfl]

omit hs in
lemma unmapUserPage_eq (hpd : pd &&& pageMask ≠ 0) (hdir : frameOf pd = dir) (hn : n < 1048576) :
    unmapUserPage s pd (pageAddress n) =
      match s.userPte dir n with
      | none => (s, false)
      | some e => ((s.freePage (e &&& pageMask)).setWord (frameOf (s.memory dir (dirIndex n)))
          (tableIndex n) 0, true) := by
  simp only [unmapUserPage, frameOf_and_pageMask, hdir, pdIndex_pageAddress hn,
    ptIndex_pageAddress hn, if_neg hpd]
  rw [Paging.userPte_def]
  split_ifs <;> rfl

lemma unmapUserPage_some (hlow : ∀ page < 256, base.Used page) (hpd : pd &&& pageMask ≠ 0)
    (hdir : frameOf pd = dir) (hn : n < 1048576) {e : BitVec 32} (h : s.userPte dir n = some e) :
    ∃ s', unmapUserPage s pd (pageAddress n) = (s', true) ∧
      s.Changes base dir (· = n) (· = n) s' ∧ s'.userPte dir n = none := by
  obtain ⟨table, htable, hframe, he, hpresent, huser⟩ := hs.of_userPte h
  subst he
  obtain ⟨hsame, hdirMem⟩ := hs.sameOn_setWord htable (tableIndex n) 0
  have hs' := hs.clearPage hlow htable hpresent
  have hpte := fun m hm => hs.userPte_setWord hn htable (s.memory_freePage _) hs' (m := m) hm
  rw [if_pos (by decide)] at hpte
  refine ⟨_, ?_, Paging.Changes.of_entry hs hs' hsame (fun i _ => congrFun hdirMem i) hpte
    fun hne _ _ => absurd rfl hne, ?_⟩
  · rw [unmapUserPage_eq hpd hdir hn, h, hframe]
  · rw [hpte n hn, if_pos rfl]

lemma Paging.Sound.userPte_addTable {i : Fin 1024} (hi : UserIndex i)
    (hempty : s.tableOf dir i = none) {table : Nat} (htable : table < pageCount)
    (hfree : ¬ s.memoryBitmap.Used table) {t : Paging} (hmem : t.memory = s.memory)
    (hused : ∀ q, t.memoryBitmap.Used q ↔ q = table ∨ s.memoryBitmap.Used q) (m : Nat) :
    ((t.setPage table fun _ => 0).setWord dir i (userEntry (pageAddress table))).userPte dir m =
      s.userPte dir m := by
  obtain ⟨hs', hnew, hpages⟩ := hs.addTable hi hempty htable hfree hmem hused
  obtain ⟨b, memory⟩ := t
  obtain rfl : memory = s.memory := hmem
  set u := ((Paging.mk b s.memory).setPage table fun _ => 0).setWord dir i
    (userEntry (pageAddress table)) with hu
  have hne : table ≠ dir := fun h => hfree (h ▸ hs.accounts.used_of_own (s := .directory) rfl)
  rw [hs'.userPte_eq, hs.userPte_eq]
  by_cases hmi : dirIndex m = i
  · have hzero : u.memory table = fun _ => 0 := by
      rw [hu, Paging.memory_setWord, if_neg hne, Paging.memory_setPage, if_pos rfl]
    rw [hmi, hnew, hempty, Option.bind_some, Option.bind_none, Paging.entryOf, hzero]
    exact if_pos BitVec.zero_and
  · have hdir : u.tableOf dir (dirIndex m) = s.tableOf dir (dirIndex m) := by
      rw [Paging.tableOf, Paging.tableOf, hu, Paging.memory_setWord, if_pos rfl,
        Function.update_of_ne hmi, Paging.memory_setPage, if_neg hne.symm]
    rw [hdir]
    cases htable' : s.tableOf dir (dirIndex m) with
    | none => rfl
    | some table' =>
      have hne' : table' ≠ table := fun h =>
        hfree (h ▸ hs.accounts.used_of_own (s := .table (dirIndex m)) htable')
      have hsame : u.memory table' = s.memory table' := by
        rw [hu, Paging.memory_setWord, if_neg (hs.table_ne_dir htable'), Paging.memory_setPage,
          if_neg hne']
      exact Paging.entryOf_congr hsame m

/-- How many pages a mapping takes: the page, and one for the table when there is none yet. -/
def Paging.pageCost (s : Paging) (dir n : Nat) : Nat :=
  if s.tableOf dir (dirIndex n) = none then 2 else 1

omit hs in
lemma Paging.freePages_of_allocPage (hlow : ∀ page < 256, s.memoryBitmap.Used page)
    (h : s.allocPage = (s, 0)) : s.memoryBitmap.freePages.card = 0 := by
  rcases pmmAllocPage_cases s.memoryBitmap with ⟨hall, -⟩ | ⟨page, hpage, hfree, halloc⟩
  · rw [Finset.card_eq_zero, Finset.eq_empty_iff_forall_notMem]
    intro page hpage
    rw [Pmm.mem_freePages] at hpage
    exact hpage.2 (hall page hpage.1)
  · obtain ⟨-, hpage0⟩ := low_of_not_used hlow hfree
    have hzero : pageAddress page = 0 := by
      have h2 := congrArg Prod.snd h
      simpa [Paging.allocPage, halloc, pageAddress] using h2
    exact absurd hzero (pageAddress_ne_zero hpage hpage0)

omit hs in
lemma Paging.used_allocPage (s : Paging) {q : Nat} (hq : s.memoryBitmap.Used q) :
    s.allocPage.1.memoryBitmap.Used q := by
  rcases s.allocPage_cases with halloc | ⟨page, hpage, -, halloc⟩
  · rwa [halloc]
  · rw [halloc]
    exact (used_pmmSetPage _ hpage q).2 (Or.inr hq)

omit hs in
lemma used_mapUserPage (s : Paging) (pd physAddr virtAddr : BitVec 32) {q : Nat}
    (hq : s.memoryBitmap.Used q) : (mapUserPage s pd physAddr virtAddr).1.memoryBitmap.Used q := by
  have halloc := s.used_allocPage hq
  simp only [mapUserPage]
  generalize s.allocPage = r at halloc ⊢
  split_ifs <;> first | simpa using hq | simpa using halloc

/-- A page that was free is mapped where nothing is mapped. -/
structure Paging.MapsFree (base : Pmm) (s : Paging) (dir n page : Nat) (s' : Paging) : Prop where
  changes : s.Changes base dir (· = n) (fun _ => False) s'
  entry : s'.userPte dir n = some (userEntry (pageAddress page))
  tables : ∀ i, s'.tableOf dir i = none ↔ s.tableOf dir i = none ∧ i ≠ dirIndex n

lemma Paging.Sound.mapsFree_oldTable (hn : UserPage n) (hnone : s.userPte dir n = none)
    {page table : Nat} (hpage : page < pageCount) (hfree : ¬ s.memoryBitmap.Used page)
    (htable : s.tableOf dir (dirIndex n) = some table) {b : Pmm}
    (hused : ∀ q, b.Used q ↔ q = page ∨ s.memoryBitmap.Used q) :
    s.MapsFree base dir n page ((Paging.mk b s.memory).setWord table (tableIndex n)
      (userEntry (pageAddress page))) := by
  have hempty : s.owned dir (.page (dirIndex n) (tableIndex n)) = none := by
    rw [hs.owned_page, hnone, Option.map_none]
  have hs' := hs.mapInTable htable hempty hpage hfree (t := ⟨b, s.memory⟩) rfl hused
  have hpte := fun m hm => hs.userPte_setWord hn.lt htable (t := ⟨b, s.memory⟩) rfl hs' (m := m) hm
  rw [if_neg (userEntry_present _)] at hpte
  obtain ⟨hsame, hdirMem⟩ := hs.sameOn_setWord htable (tableIndex n) (userEntry (pageAddress page))
  refine ⟨Paging.Changes.of_entry hs hs' hsame (fun i _ => congrFun hdirMem i) hpte
    (fun _ e he => ?_), ?_, fun i => ?_⟩
  · rw [hnone] at he
    cases he
  · rw [hpte n hn.lt, if_pos rfl]
  · refine (iff_of_eq (congrArg (· = none) (Paging.tableOf_congr hdirMem i))).trans
      ⟨fun h => ⟨h, ?_⟩, And.left⟩
    rintro rfl
    rw [htable] at h
    cases h

/-- The table is added, and then the page is mapped in it. -/
lemma Paging.Sound.mapsFree_newTable (hn : UserPage n) (hnone : s.userPte dir n = none)
    {page table : Nat} (hpage : page < pageCount) (hfree : ¬ s.memoryBitmap.Used page)
    (hempty : s.tableOf dir (dirIndex n) = none) (htable : table < pageCount)
    (htfree : ¬ s.memoryBitmap.Used table) (hne : table ≠ page) {b : Pmm}
    (hused : ∀ q, b.Used q ↔ q = table ∨ q = page ∨ s.memoryBitmap.Used q) :
    s.MapsFree base dir n page ((((Paging.mk b s.memory).setPage table fun _ => 0).setWord dir
      (dirIndex n) (userEntry (pageAddress table))).setWord table (tableIndex n)
        (userEntry (pageAddress page))) := by
  have hi := (userIndex_dirIndex hn.lt).2 hn
  have hnedir : table ≠ dir := fun h =>
    htfree (h ▸ hs.accounts.used_of_own (s := .directory) rfl)
  have hused₁ := used_pmmSetPage s.memoryBitmap htable
  obtain ⟨hs₁, htable₁, hpages₁⟩ := hs.addTable hi hempty htable htfree
    (t := ⟨pmmSetPage s.memoryBitmap (table * pageSize), s.memory⟩) rfl hused₁
  have hpte₁ := hs.userPte_addTable hi hempty htable htfree
    (t := ⟨pmmSetPage s.memoryBitmap (table * pageSize), s.memory⟩) rfl hused₁
  set s₁ := ((Paging.mk (pmmSetPage s.memoryBitmap (table * pageSize)) s.memory).setPage table
    fun _ => 0).setWord dir (dirIndex n) (userEntry (pageAddress table)) with hs₁eq
  set u := ((Paging.mk b s.memory).setPage table fun _ => 0).setWord dir (dirIndex n)
    (userEntry (pageAddress table)) with hueq
  have humem : u.memory = s₁.memory := rfl
  have hfree₁ : ¬ s₁.memoryBitmap.Used page := by
    intro h
    rcases (hused₁ page).1 h with heq | h
    · exact hne heq.symm
    · exact hfree h
  have hused₂ : ∀ q, u.memoryBitmap.Used q ↔ q = page ∨ s₁.memoryBitmap.Used q := by
    intro q
    change b.Used q ↔ q = page ∨ (pmmSetPage s.memoryBitmap _).Used q
    rw [hused, hused₁]
    exact or_left_comm
  have hs₂ := hs₁.mapInTable htable₁ (hpages₁ (tableIndex n)) hpage hfree₁ humem hused₂
  have hpte := fun m hm => hs₁.userPte_setWord hn.lt htable₁ humem hs₂ (m := m) hm
  simp only [if_neg (userEntry_present _), hpte₁] at hpte
  have hnotApart : ∀ q, ¬ s.memoryBitmap.Used q ∨ q = dir → ¬ s.Apart dir q := by
    rintro q (hq | hq) hapart
    · exact hq hapart.1
    · exact hapart.2.1 hq
  have hsame : s.SameOn (s.Apart dir) u :=
    ((Paging.SameOn.of_memory rfl).setPage (hnotApart table (Or.inl htfree)) _).setWord
      (hnotApart dir (Or.inr rfl)) _ _
  have hdirMem : (u.setWord table (tableIndex n) (userEntry (pageAddress page))).memory dir =
      Function.update (s.memory dir) (dirIndex n) (userEntry (pageAddress table)) := by
    rw [Paging.memory_setWord, if_neg hnedir.symm, hueq, Paging.memory_setWord, if_pos rfl,
      Paging.memory_setPage, if_neg hnedir.symm]
  refine ⟨Paging.Changes.of_entry hs hs₂ (hsame.setWord (hnotApart table (Or.inl htfree)) _ _)
    (fun i hi' => ?_) hpte (fun _ e he => ?_), ?_, fun i => ?_⟩
  · rw [hdirMem, Function.update_of_ne fun h => hi' (by rwa [h])]
  · rw [hnone] at he
    cases he
  · rw [hpte n hn.lt, if_pos rfl]
  · rw [Paging.tableOf, hdirMem, Paging.tableOf]
    by_cases hin : i = dirIndex n
    · subst hin
      rw [Function.update_self, if_pos ⟨hi, userEntry_present _⟩]
      simp
    · rw [Function.update_of_ne hin, and_iff_left hin]

section

variable (hlow : ∀ page < 256, base.Used page) (hpd : pd &&& pageMask ≠ 0)
include hlow hpd

/-- `map_user_page` of a page that was taken last, where nothing is mapped: there is no page for a
table, or the page is mapped there. -/
lemma mapUserPage_unmapped (hdir : frameOf pd = dir) (hn : UserPage n)
    (hnone : s.userPte dir n = none) {page : Nat} (hpage : page < pageCount)
    (hfree : ¬ s.memoryBitmap.Used page) {t : Paging}
    (ht : t = ⟨pmmSetPage s.memoryBitmap (page * pageSize), s.memory⟩) :
    mapUserPage t pd (pageAddress page) (pageAddress n) = (t, false) ∧
        s.memoryBitmap.freePages.card < s.pageCost dir n ∨
      ∃ s', mapUserPage t pd (pageAddress page) (pageAddress n) = (s', true) ∧
        s.MapsFree base dir n page s' ∧
        s'.memoryBitmap.freePages.card + s.pageCost dir n = s.memoryBitmap.freePages.card := by
  have hi := (userIndex_dirIndex hn.lt).2 hn
  have hused : ∀ q, t.memoryBitmap.Used q ↔ q = page ∨ s.memoryBitmap.Used q := by
    rw [ht]
    exact used_pmmSetPage _ hpage
  have hmem : t.memory = s.memory := by rw [ht]
  have hcard := Pmm.card_freePages_take hpage hfree hused
  have hlow' : ∀ page < 256, t.memoryBitmap.Used page :=
    fun q hq => (hused q).2 (Or.inr (hs.used_of_base (hlow q hq)))
  simp only [mapUserPage, hpd, if_false, frameOf_and_pageMask, hdir, pdIndex_pageAddress hn.lt,
    ptIndex_pageAddress hn.lt, hmem]
  by_cases hpresent : s.memory dir (dirIndex n) &&& pagePresent = 0
  · have hempty : s.tableOf dir (dirIndex n) = none := by
      rw [Paging.tableOf, if_neg (by simp [hpresent])]
    rw [if_pos hpresent, Paging.pageCost, if_pos hempty]
    rcases t.allocPage_cases with halloc | ⟨table, htable, htfree, halloc⟩
    · left
      have hzero := Paging.freePages_of_allocPage hlow' halloc
      rw [halloc, if_pos rfl]
      exact ⟨rfl, by omega⟩
    · right
      obtain ⟨-, htable0⟩ := low_of_not_used hlow' htfree
      have htfree' : ¬ s.memoryBitmap.Used table := fun h => htfree ((hused table).2 (Or.inr h))
      have hne : table ≠ page := fun h => htfree ((hused table).2 (Or.inl h))
      have hcard₁ := Pmm.card_freePages_take htable htfree
        (c := pmmSetPage t.memoryBitmap (table * pageSize)) (used_pmmSetPage _ htable)
      simp only [halloc, pageAddress_ne_zero htable htable0, if_false, frameOf_pageAddress htable,
        hmem]
      refine ⟨_, rfl, hs.mapsFree_newTable hn hnone hpage hfree hempty htable htfree' hne
        fun q => ?_, ?_⟩
      · rw [used_pmmSetPage _ htable, hused]
      · change (pmmSetPage t.memoryBitmap (table * pageSize)).freePages.card + 2 = _
        omega
  · right
    have htable : s.tableOf dir (dirIndex n) = some (frameOf (s.memory dir (dirIndex n))) := by
      rw [Paging.tableOf, if_pos ⟨hi, hpresent⟩]
    rw [if_neg hpresent, Paging.pageCost, if_neg (by simp [htable])]
    subst ht
    exact ⟨_, rfl, hs.mapsFree_oldTable hn hnone hpage hfree htable hused, hcard⟩

/-- One round of `map_user_pages_for_range`: an address that is mapped is passed over. -/
def mapRangeRound (pd : BitVec 32) (s : Paging) (virtAddr : BitVec 32) : Except Paging Paging :=
  if resolveUserPhys s pd virtAddr ≠ 0 then .ok s
  else
    let r := s.allocPage
    if r.2 = 0 then .error r.1
    else
      let m := mapUserPage r.1 pd r.2 virtAddr
      if m.2 then .ok m.1 else .error (m.1.freePage (r.2 &&& pageMask))

omit hlow hpd in
lemma resolveUserPhys_eq (hpd : pd &&& pageMask ≠ 0) (hdir : frameOf pd = dir) {va : BitVec 32}
    (hva : UserPage (pageNo va)) :
    resolveUserPhys s pd va =
      match s.userPte dir (pageNo va) with
      | none => 0
      | some e => e &&& pageMask ||| va &&& 0xFFF := by
  have hi := (userIndex_dirIndex hva.lt).2 hva
  have hpdIndex : pdIndex va = dirIndex (pageNo va) := pdIndex_eq va
  have hptIndex : ptIndex va = tableIndex (pageNo va) := ptIndex_eq va
  simp only [resolveUserPhys, hpd, if_false, frameOf_and_pageMask, hdir, hpdIndex, hptIndex]
  by_cases hpresent : s.memory dir (dirIndex (pageNo va)) &&& pagePresent = 0
  · rw [if_pos hpresent, Paging.userPte_def, if_pos (Or.inl hpresent)]
  have htable : s.tableOf dir (dirIndex (pageNo va)) =
      some (frameOf (s.memory dir (dirIndex (pageNo va)))) := by
    rw [Paging.tableOf, if_pos ⟨hi, hpresent⟩]
  rw [if_neg hpresent, hs.userPte_eq, htable, Option.bind_some, Paging.entryOf]
  split_ifs <;> rfl

lemma resolveUserPhys_eq_zero (hdir : frameOf pd = dir) {va : BitVec 32}
    (hva : UserPage (pageNo va)) :
    resolveUserPhys s pd va = 0 ↔ s.userPte dir (pageNo va) = none := by
  rw [resolveUserPhys_eq hs hpd hdir hva]
  cases he : s.userPte dir (pageNo va) with
  | none => exact iff_of_true rfl rfl
  | some e =>
    refine iff_of_false (fun h => ?_) (by simp)
    have hlow' := hs.not_low hlow (hs.owned_of_userPte he)
    rw [← toNat_and_pageMask, (BitVec.or_eq_zero_iff.1 h).1] at hlow'
    exact absurd hlow' (by decide)

/-- A page that is mapped is left alone, one that is not is mapped unless memory is short. -/
lemma mapRangeRound_cases (hdir : frameOf pd = dir) (hn : UserPage n) :
    (∃ e, s.userPte dir n = some e) ∧ mapRangeRound pd s (pageAddress n) = .ok s ∨
      s.userPte dir n = none ∧ s.memoryBitmap.freePages.card < s.pageCost dir n ∧
        mapRangeRound pd s (pageAddress n) = .error s ∨
      s.userPte dir n = none ∧ ∃ s' page, page < pageCount ∧ ¬ s.memoryBitmap.Used page ∧
        mapRangeRound pd s (pageAddress n) = .ok s' ∧
        s.Changes base dir (· = n) (fun _ => False) s' ∧
        s'.userPte dir n = some (userEntry (pageAddress page)) ∧
        s'.memoryBitmap.freePages.card + s.pageCost dir n = s.memoryBitmap.freePages.card ∧
        ∀ i, s'.tableOf dir i = none ↔ s.tableOf dir i = none ∧ i ≠ dirIndex n := by
  have hpage := pageNo_pageAddress hn.lt
  have hva : UserPage (pageNo (pageAddress n)) := by rwa [hpage]
  have hzero := resolveUserPhys_eq_zero hs hlow hpd hdir hva
  rw [hpage] at hzero
  cases hpte : s.userPte dir n with
  | some e =>
    rw [hpte] at hzero
    left
    exact ⟨⟨e, rfl⟩, if_pos fun h => by simpa using hzero.1 h⟩
  | none =>
    right
    rw [mapRangeRound, if_neg (not_not.2 (hzero.2 hpte))]
    have hlow' : ∀ page < 256, s.memoryBitmap.Used page :=
      fun q hq => hs.used_of_base (hlow q hq)
    rcases s.allocPage_cases with halloc | ⟨page, hpage, hfree, halloc⟩
    · left
      have hcard := Paging.freePages_of_allocPage hlow' halloc
      refine ⟨rfl, ?_, by rw [halloc]; rfl⟩
      rw [hcard, Paging.pageCost]
      split_ifs <;> omega
    · obtain ⟨hpageLow, hpage0⟩ := low_of_not_used hlow' hfree
      simp only [halloc, pageAddress_ne_zero hpage hpage0, if_false]
      rcases mapUserPage_unmapped hs hlow hpd hdir hn hpte hpage hfree rfl with
        ⟨hfail, hcard⟩ | ⟨s', hok, hmaps, hcard⟩
      · left
        rw [hfail, if_neg (by simp), freePage_allocPage hpage hpageLow hfree]
        exact ⟨trivial, hcard, rfl⟩
      · right
        rw [hok, if_pos rfl]
        exact ⟨trivial, s', page, hpage, hfree, rfl, hmaps.changes, hmaps.entry, hcard,
          hmaps.tables⟩

end

end

end

end NeuroSpark
