import NeuroSpark.Mem.Mappings

/-!
# The address space of a child

`clone_user_address_space` goes through the tables of the parent and gives the child a copy of each
page. The entry of a copy always has `PAGE_RW`, whatever the entry of the page has.
-/

namespace NeuroSpark

/-- The directory, its tables for user mode and the pages mapped in them are in use. -/
structure Paging.InUse (s : Paging) (dir : Nat) : Prop where
  directory : s.memoryBitmap.Used dir
  table : ∀ i, UserIndex i → s.memory dir i &&& pagePresent ≠ 0 → s.memory dir i &&& pageUser ≠ 0 →
    s.memoryBitmap.Used (frameOf (s.memory dir i))
  page : ∀ n, UserPage n → ∀ e, s.userPte dir n = some e → s.memoryBitmap.Used (frameOf e)

lemma Paging.Sound.inUse {base : Pmm} {s : Paging} {dir : Nat} (hs : s.Sound base dir) :
    s.InUse dir where
  directory := hs.accounts.used_of_own (s := .directory) rfl
  table i _ hpresent huser :=
    hs.accounts.used_of_own (s := .table i) (hs.tableOf_of_user hpresent huser)
  page _ _ _ he := (hs.apart_of_userPte he).1

/-- What a page of the child should be, given the entry of the parent for it: mapped to a page that
was free before, with the same contents and the same permission. -/
def ClonedPage (s s' : Paging) (e : BitVec 32) (e' : Option (BitVec 32)) : Prop :=
  ∃ v, e' = some v ∧ ¬ s.memoryBitmap.Used (frameOf v) ∧
    s'.memory (frameOf v) = s.memory (frameOf e) ∧ (v &&& pageRw ≠ 0 ↔ e &&& pageRw ≠ 0)

/-- The address space of `dst` is a copy of that of `src`. In `space`, all pages that it uses are
different and were free before. -/
structure FaithfulClone (s s' : Paging) (src dst : Nat) : Prop where
  space : s'.Sound s.memoryBitmap dst
  source : s.SameOn s.memoryBitmap.Used s'
  unmapped : ∀ n, UserPage n → s.userPte src n = none → s'.userPte dst n = none
  mapped : ∀ n, UserPage n → ∀ e, s.userPte src n = some e → ClonedPage s s' e (s'.userPte dst n)

section

variable {base : Pmm} {k : KernelLayout} {s t t' : Paging} {src dst dir n : Nat}

lemma userEntry_rw (p : BitVec 32) : userEntry p &&& pageRw ≠ 0 := by
  simp [userEntry, BitVec.and_or_distrib_right, pagePresent, pageRw, pageUser]

/-! ### One page -/

lemma Paging.Sound.userPte_setPage_free (hs : s.Sound base dir) {page : Nat}
    (hfree : ¬ s.memoryBitmap.Used page) (words : Fin 1024 → BitVec 32) (n : Nat) :
    (s.setPage page words).userPte dir n = s.userPte dir n := by
  have hmem : ∀ (slot : Slot) {q : Nat}, s.owned dir slot = some q →
      (s.setPage page words).memory q = s.memory q := by
    intro slot q hq
    have hne : q ≠ page := fun h => hfree (h ▸ hs.accounts.used_of_own hq)
    rw [Paging.memory_setPage, if_neg hne]
  exact hs.userPte_congr (hs.setPage_free hfree words) (hmem .directory rfl)
    (fun i _ htable => hmem (.table i) htable) n

/-- One round of the inner loop: an entry that is not there is passed over, the page of another one
is copied to a page that was free. -/
lemma clonePage_changes (hs : t.Sound base dir) (hlow : ∀ page < 256, base.Used page)
    (hn : n < 1048576) {table : Nat} (htable : t.tableOf dir (dirIndex n) = some table)
    (hnone : t.userPte dir n = none) {srcPt dstPt : BitVec 32} (hdst : frameOf dstPt = table)
    (h : clonePage srcPt dstPt t (tableIndex n) = .ok t') :
    (t.memory (frameOf srcPt) (tableIndex n) &&& pagePresent = 0 ∨
        t.memory (frameOf srcPt) (tableIndex n) &&& pageUser = 0) ∧ t' = t ∨
      ¬ (t.memory (frameOf srcPt) (tableIndex n) &&& pagePresent = 0 ∨
        t.memory (frameOf srcPt) (tableIndex n) &&& pageUser = 0) ∧
      t.Changes base dir (· = n) (fun _ => False) t' ∧ t'.memory dir = t.memory dir ∧
      ∃ page < pageCount, ¬ t.memoryBitmap.Used page ∧
        t'.userPte dir n = some (userEntry (pageAddress page)) ∧
        t'.memory page = t.memory (frameOf (t.memory (frameOf srcPt) (tableIndex n))) := by
  unfold clonePage at h
  dsimp only at h
  split at h
  · rename_i hsrc
    rw [Except.ok.injEq] at h
    exact Or.inl ⟨hsrc, h.symm⟩
  rename_i hsrc
  refine Or.inr ⟨hsrc, ?_⟩
  rcases t.allocPage_cases with halloc | ⟨page, hpage, hfree, halloc⟩
  · rw [halloc, if_pos rfl] at h
    cases h
  obtain ⟨-, hpage0⟩ := low_of_not_used (fun q hq => hs.used_of_base (hlow q hq)) hfree
  simp only [halloc, pageAddress_ne_zero hpage hpage0, if_false, frameOf_pageAddress hpage, hdst,
    Except.ok.injEq] at h
  subst h
  generalize t.memory (frameOf (t.memory (frameOf srcPt) (tableIndex n))) = words
  -- the copy goes to a page that is free, and then into the table
  have hs₁ := hs.setPage_free hfree words
  have hpte₁ := hs.userPte_setPage_free hfree words
  have hne : ∀ (slot : Slot) {q : Nat}, t.owned dir slot = some q → q ≠ page :=
    fun _ _ hq h => hfree (h ▸ hs.accounts.used_of_own hq)
  have hdirMem : (t.setPage page words).memory dir = t.memory dir := by
    rw [Paging.memory_setPage, if_neg (hne .directory rfl)]
  have htable₁ := (Paging.tableOf_congr hdirMem (dirIndex n)).trans htable
  have hempty₁ : (t.setPage page words).owned dir (.page (dirIndex n) (tableIndex n)) = none := by
    rw [hs₁.owned_page, hpte₁, hnone, Option.map_none]
  set u : Paging := Paging.setPage ⟨pmmSetPage t.memoryBitmap (page * pageSize), t.memory⟩ page words
    with hu
  have hs₂ := hs₁.mapInTable (t := u) htable₁ hempty₁ hpage hfree rfl (used_pmmSetPage _ hpage)
  have hpte := fun m hm => hs₁.userPte_setWord (t := u) hn htable₁ rfl hs₂ (m := m) hm
  simp only [if_neg (userEntry_present _), hpte₁] at hpte
  have hnotApart : ¬ t.Apart dir page := fun hapart => hfree hapart.1
  have htableApart : ¬ t.Apart dir table := fun hapart => hapart.2.2 _ htable
  refine ⟨Paging.Changes.of_entry hs hs₂
      (((Paging.SameOn.of_memory rfl).setPage hnotApart words).setWord htableApart _ _)
      (fun i _ => ?_) hpte (fun _ e he => ?_), ?_, page, hpage, hfree, ?_, ?_⟩
  · rw [Paging.memory_setWord, if_neg (hs.table_ne_dir htable).symm]
    exact congrFun hdirMem i
  · rw [hnone] at he
    cases he
  · rw [Paging.memory_setWord, if_neg (hs.table_ne_dir htable).symm]
    exact hdirMem
  · rw [hpte n hn, if_pos rfl]
  · rw [Paging.memory_setWord, if_neg (hne (.table _) htable).symm, hu,
      Paging.memory_setPage, if_pos rfl]

lemma Paging.allocPage_freeList (s : Paging) :
    s.memoryBitmap.freeList = [] ∧ s.allocPage = (s, 0) ∨
      ∃ page rest, s.memoryBitmap.freeList = page :: rest ∧
        s.allocPage = ({ s with memoryBitmap := pmmSetPage s.memoryBitmap (page * pageSize) },
          pageAddress page) ∧
        (pmmSetPage s.memoryBitmap (page * pageSize)).freeList = rest := by
  rcases pmmAllocPage_freeList s.memoryBitmap with ⟨hnil, h⟩ | ⟨page, rest, hfree, h, hrest⟩
  · simp [Paging.allocPage, h, hnil]
  · right
    exact ⟨page, rest, hfree, by simp [Paging.allocPage, h, pageAddress], hrest⟩

lemma pageAddress_ne_zero_of_free {b : Pmm} (hlow : ∀ page < 256, b.Used page) {page : Nat}
    {rest : List Nat} (hfree : b.freeList = page :: rest) :
    page < pageCount ∧ ¬ b.Used page ∧ pageAddress page ≠ 0 := by
  have hmem : page ∈ b.freeList := by
    rw [hfree]
    exact List.mem_cons_self
  obtain ⟨hpage, hnot⟩ := Pmm.mem_freeList.1 hmem
  exact ⟨hpage, hnot, pageAddress_ne_zero hpage (low_of_not_used hlow hnot).2⟩

/-- How many pages the copy of one page takes, of the pages of one table, and of all. -/
def clonePageNeed (s : Paging) (table : Nat) (j : Fin 1024) : Nat :=
  if s.memory table j &&& pagePresent = 0 ∨ s.memory table j &&& pageUser = 0 then 0 else 1

def cloneTableNeed (s : Paging) (src : Nat) (i : Fin 1024) : Nat :=
  if s.memory src i &&& pagePresent = 0 ∨ s.memory src i &&& pageUser = 0 then 0
  else 1 + ((List.finRange 1024).map (clonePageNeed s (frameOf (s.memory src i)))).sum

def cloneNeed (s : Paging) (src : Nat) : Nat :=
  1 + (((List.finRange 1024).filter UserIndex).map (cloneTableNeed s src)).sum

lemma clonePage_supply (hlow : ∀ page < 256, t.memoryBitmap.Used page) (srcPt dstPt : BitVec 32)
    (j : Fin 1024) :
    (∃ t', clonePage srcPt dstPt t j = .ok t' ∧
        clonePageNeed t (frameOf srcPt) j ≤ t.memoryBitmap.freeList.length ∧
        t'.memoryBitmap.freeList =
          t.memoryBitmap.freeList.drop (clonePageNeed t (frameOf srcPt) j)) ∨
      t.memoryBitmap.freeList.length < clonePageNeed t (frameOf srcPt) j ∧
        clonePage srcPt dstPt t j = .error t := by
  unfold clonePage clonePageNeed
  dsimp only
  split_ifs with hskip hzero
  · exact Or.inl ⟨t, rfl, Nat.zero_le _, rfl⟩
  all_goals rcases t.allocPage_freeList with ⟨hnil, halloc⟩ | ⟨page, rest, hfree, halloc, hrest⟩
  · rw [halloc, hnil]
    exact Or.inr ⟨Nat.one_pos, rfl⟩
  · rw [halloc] at hzero
    exact absurd hzero (pageAddress_ne_zero_of_free hlow hfree).2.2
  · rw [halloc] at hzero
    exact absurd rfl hzero
  · refine Or.inl ⟨_, rfl, ?_, ?_⟩
    · rw [hfree]
      exact Nat.succ_pos _
    · rw [Paging.memoryBitmap_setWord, Paging.memoryBitmap_setPage, halloc, hfree, List.drop_one,
        List.tail_cons, hrest]

/-- Page `n` of `src` as it was in `s` has been copied for `dst` in `t`. -/
structure Paging.Copied (s : Paging) (src dst : Nat) (t : Paging) (n : Nat) : Prop where
  unmapped : s.userPte src n = none → t.userPte dst n = none
  mapped : ∀ e, s.userPte src n = some e → ∃ page < pageCount, ¬ s.memoryBitmap.Used page ∧
    t.userPte dst n = some (userEntry (pageAddress page)) ∧ t.memory page = s.memory (frameOf e)

lemma Paging.Copied.of_changes (h : s.Copied src dst t n) (hn : n < 1048576) {touched : Nat → Prop}
    (hchanges : t.Changes base dst touched (fun _ => False) t')
    (hout : ¬ touched n) : s.Copied src dst t' n := by
  have hpte := hchanges.outside n hn hout
  refine ⟨fun hnone => hpte.trans (h.unmapped hnone), fun e he => ?_⟩
  obtain ⟨page, hpage, hfree, hentry, hmem⟩ := h.mapped e he
  obtain ⟨-, -, -, hkept⟩ := hchanges.kept n hn (fun h => h) _ hentry
  rw [frameOf_userEntry, frameOf_pageAddress hpage] at hkept
  exact ⟨page, hpage, hfree, hpte.trans hentry, hkept.trans hmem⟩

/-! ### One table -/

lemma exists_index {i : Fin 1024} (hi : UserIndex i) (j : Fin 1024) :
    ∃ n, UserPage n ∧ dirIndex n = i ∧ tableIndex n = j := by
  have hn : (i : Nat) * 1024 + j < 1048576 := by omega
  have hdir : dirIndex ((i : Nat) * 1024 + j) = i := by
    apply Fin.ext
    change ((i : Nat) * 1024 + j) / 1024 % 1024 = i
    omega
  have htable : tableIndex ((i : Nat) * 1024 + j) = j := by
    apply Fin.ext
    change ((i : Nat) * 1024 + j) % 1024 = j
    omega
  have huser : UserIndex (dirIndex ((i : Nat) * 1024 + j)) := by
    rw [hdir]
    exact hi
  exact ⟨_, (userIndex_dirIndex hn).1 huser, hdir, htable⟩

/-- The pages of table `i` are being copied: those of the entries in `l` are still to come. -/
structure Paging.CopyingTable (s : Paging) (src dst : Nat) (i : Fin 1024) (table : Nat)
    (l : List (Fin 1024)) (t : Paging) : Prop where
  sound : t.Sound s.memoryBitmap dst
  same : s.SameOn s.memoryBitmap.Used t
  table : t.tableOf dst i = some table
  nodup : l.Nodup
  todo : ∀ n, UserPage n → dirIndex n = i → tableIndex n ∈ l → t.userPte dst n = none
  done : ∀ n, UserPage n → dirIndex n = i → tableIndex n ∉ l → s.Copied src dst t n

lemma userPte_of_table (hpresent : s.memory src (dirIndex n) &&& pagePresent ≠ 0)
    (huser : s.memory src (dirIndex n) &&& pageUser ≠ 0) :
    s.userPte src n =
      if s.memory (frameOf (s.memory src (dirIndex n))) (tableIndex n) &&& pagePresent = 0 ∨
        s.memory (frameOf (s.memory src (dirIndex n))) (tableIndex n) &&& pageUser = 0 then none
      else some (s.memory (frameOf (s.memory src (dirIndex n))) (tableIndex n)) := by
  rw [Paging.userPte_def, if_neg (not_or.2 ⟨hpresent, huser⟩)]

section

variable (hsrc : s.InUse src) (hlow : ∀ page < 256, s.memoryBitmap.Used page)
include hsrc hlow

variable {l : List (Fin 1024)}

lemma Paging.CopyingTable.step {i j : Fin 1024} (hi : UserIndex i)
    (hpresent : s.memory src i &&& pagePresent ≠ 0) (huser : s.memory src i &&& pageUser ≠ 0)
    {table : Nat} (h : s.CopyingTable src dst i table (j :: l) t) {dstPt : BitVec 32}
    (hdst : frameOf dstPt = table) (ht' : clonePage (s.memory src i) dstPt t j = .ok t') :
    s.CopyingTable src dst i table l t' ∧
      t.Changes s.memoryBitmap dst (fun n => dirIndex n = i) (fun _ => False) t' := by
  obtain ⟨n, hn, rfl, rfl⟩ := exists_index hi j
  obtain ⟨hj, hnodup⟩ := List.nodup_cons.1 h.nodup
  have hsrcTable : t.memory (frameOf (s.memory src (dirIndex n))) =
      s.memory (frameOf (s.memory src (dirIndex n))) :=
    h.same _ (hsrc.table _ hi hpresent huser)
  have hsrcPte := userPte_of_table hpresent huser
  have hother : ∀ m, UserPage m → dirIndex m = dirIndex n → tableIndex m ∉ l → m ≠ n →
      tableIndex m ∉ tableIndex n :: l := by
    intro m hm hdir hnot hne hmem
    rcases List.mem_cons.1 hmem with htable | hmem
    · exact hne (index_inj hm.lt hn.lt hdir htable)
    · exact hnot hmem
  rcases clonePage_changes h.sound hlow hn.lt h.table
    (h.todo n hn rfl (List.mem_cons_self ..)) hdst ht' with
    ⟨hskip, rfl⟩ | ⟨hcopy, hchanges, hmemDir, page, hpage, hfree, hentry, hmem⟩
  · rw [hsrcTable] at hskip
    rw [if_pos hskip] at hsrcPte
    refine ⟨⟨h.sound, h.same, h.table, hnodup,
      fun m hm hdir hmem => h.todo m hm hdir (List.mem_cons_of_mem _ hmem), fun m hm hdir hnot => ?_⟩,
      Paging.Changes.refl h.sound⟩
    by_cases hmn : m = n
    · subst hmn
      refine ⟨fun _ => h.todo m hm rfl (List.mem_cons_self ..), fun e he => ?_⟩
      rw [hsrcPte] at he
      cases he
    · exact h.done m hm hdir (hother m hm hdir hnot hmn)
  · rw [hsrcTable] at hcopy hmem
    rw [if_neg hcopy] at hsrcPte
    refine ⟨⟨hchanges.sound, h.same.trans hchanges.same, ?_, hnodup, fun m hm hdir hmemL => ?_,
      fun m hm hdir hnot => ?_⟩, hchanges.mono ?_ fun _ h => h⟩
    · rw [Paging.tableOf_congr hmemDir, h.table]
    · have hne : m ≠ n := by
        rintro rfl
        exact hj hmemL
      rw [hchanges.outside m hm.lt hne]
      exact h.todo m hm hdir (List.mem_cons_of_mem _ hmemL)
    · by_cases hmn : m = n
      · subst hmn
        refine ⟨fun hnone => ?_, fun e he => ⟨page, hpage, fun hused => ?_, hentry, ?_⟩⟩
        · rw [hsrcPte] at hnone
          cases hnone
        · exact hfree (h.sound.used_of_base hused)
        · have hframe := h.same _ (hsrc.page m hm e he)
          rw [hsrcPte, Option.some.injEq] at he
          rw [hmem, he, hframe]
      · exact (h.done m hm hdir (hother m hm hdir hnot hmn)).of_changes hm.lt hchanges hmn
    · rintro m rfl
      rfl

lemma Paging.CopyingTable.round {i j : Fin 1024} (hi : UserIndex i)
    (hpresent : s.memory src i &&& pagePresent ≠ 0) (huser : s.memory src i &&& pageUser ≠ 0)
    {table : Nat} (h : s.CopyingTable src dst i table (j :: l) t) {dstPt : BitVec 32}
    (hdst : frameOf dstPt = table) :
    (∃ t', clonePage (s.memory src i) dstPt t j = .ok t' ∧
        clonePageNeed s (frameOf (s.memory src i)) j ≤ t.memoryBitmap.freeList.length ∧
        t'.memoryBitmap.freeList =
          t.memoryBitmap.freeList.drop (clonePageNeed s (frameOf (s.memory src i)) j) ∧
        s.CopyingTable src dst i table l t' ∧
        t.Changes s.memoryBitmap dst (fun n => dirIndex n = i) (fun _ => False) t') ∨
      t.memoryBitmap.freeList.length < clonePageNeed s (frameOf (s.memory src i)) j ∧
        clonePage (s.memory src i) dstPt t j = .error t := by
  have hneed : clonePageNeed t (frameOf (s.memory src i)) j =
      clonePageNeed s (frameOf (s.memory src i)) j := by
    rw [clonePageNeed, clonePageNeed, h.same _ (hsrc.table i hi hpresent huser)]
  rw [← hneed]
  rcases clonePage_supply (fun q hq => h.sound.used_of_base (hlow q hq)) (s.memory src i) dstPt j
    with ⟨t', hok, hle, hfree⟩ | hfail
  · obtain ⟨hcopying, hchanges⟩ := h.step hsrc hlow hi hpresent huser hdst hok
    exact Or.inl ⟨t', hok, hle, hfree, hcopying, hchanges⟩
  · exact Or.inr hfail

/-- One round of the outer loop copies the pages of one table, or runs out of memory. -/
lemma cloneTable_cases (hs : t.Sound s.memoryBitmap dst) (hsame : s.SameOn s.memoryBitmap.Used t)
    {i : Fin 1024} (hi : UserIndex i) (hempty : t.tableOf dst i = none) {srcPd dstPd : BitVec 32}
    (hsrcPd : frameOf srcPd = src) (hdstPd : frameOf dstPd = dst) :
    (∃ t', cloneTable srcPd dstPd t i = .ok t' ∧
        cloneTableNeed s src i ≤ t.memoryBitmap.freeList.length ∧
        t'.memoryBitmap.freeList = t.memoryBitmap.freeList.drop (cloneTableNeed s src i) ∧
        t.Changes s.memoryBitmap dst (fun n => dirIndex n = i) (fun _ => False) t' ∧
        ∀ n, UserPage n → dirIndex n = i → s.Copied src dst t' n) ∨
      t.memoryBitmap.freeList.length < cloneTableNeed s src i ∧
        ∃ t', cloneTable srcPd dstPd t i = .error t' ∧ t'.Sound s.memoryBitmap dst := by
  unfold cloneTable cloneTableNeed
  rw [hsrcPd, hsame src hsrc.directory, hdstPd]
  have hnone : ∀ n, dirIndex n = i → t.userPte dst n = none := by
    rintro n rfl
    rw [hs.userPte_eq, hempty, Option.bind_none]
  by_cases hpde : s.memory src i &&& pagePresent = 0 ∨ s.memory src i &&& pageUser = 0
  · rw [if_pos hpde, if_pos hpde]
    refine Or.inl ⟨t, rfl, Nat.zero_le _, rfl, Paging.Changes.refl hs,
      fun n _ hdir => ⟨fun _ => hnone n hdir, fun e he => ?_⟩⟩
    subst hdir
    rw [Paging.userPte_def, if_pos hpde] at he
    cases he
  rw [if_neg hpde, if_neg hpde]
  obtain ⟨hpresent, huser⟩ := not_or.1 hpde
  have hlow' : ∀ q < 256, t.memoryBitmap.Used q := fun q hq => hs.used_of_base (hlow q hq)
  rcases t.allocPage_freeList with ⟨hnil, halloc⟩ | ⟨table, rest, hfreeList, halloc, hrest⟩
  · rw [halloc, if_pos rfl, hnil]
    exact Or.inr ⟨Nat.add_pos_left Nat.one_pos _, t, rfl, hs⟩
  obtain ⟨htable, hfree, htable0⟩ := pageAddress_ne_zero_of_free hlow' hfreeList
  simp only [halloc, htable0, if_false, frameOf_pageAddress htable]
  obtain ⟨hs₁, htableOf, -⟩ := hs.addTable hi hempty htable hfree
    (t := ⟨pmmSetPage t.memoryBitmap (table * pageSize), t.memory⟩) rfl (used_pmmSetPage _ htable)
  have hpte₁ := hs.userPte_addTable hi hempty htable hfree
    (t := ⟨pmmSetPage t.memoryBitmap (table * pageSize), t.memory⟩) rfl (used_pmmSetPage _ htable)
  have hne : dst ≠ table := fun h => hfree (h ▸ hs.accounts.used_of_own (s := .directory) rfl)
  set s₁ := (Paging.setPage ⟨pmmSetPage t.memoryBitmap (table * pageSize), t.memory⟩ table
    fun _ => 0).setWord dst i (userEntry (pageAddress table)) with hs₁eq
  have hchanges₁ : t.Changes s.memoryBitmap dst (fun n => dirIndex n = i) (fun _ => False) s₁ := by
    refine Paging.Changes.of_same hs hs₁ ?_ (fun i' hi' => ?_) hpte₁
    · exact ((Paging.SameOn.of_memory rfl).setPage (fun hapart => hfree hapart.1) _).setWord
        (fun hapart => hapart.2.1 rfl) _ _
    · have hii' : i' ≠ i := fun h => hi' (h ▸ hi)
      rw [hs₁eq, Paging.memory_setWord, if_pos rfl, Function.update_of_ne hii',
        Paging.memory_setPage, if_neg hne]
  have hstart : s.CopyingTable src dst i table (List.finRange 1024) s₁ :=
    ⟨hs₁, hsame.trans hchanges₁.same, htableOf, List.nodup_finRange 1024,
      fun n _ hdir _ => (hpte₁ n).trans (hnone n hdir),
      fun n _ _ hnot => absurd (List.mem_finRange _) hnot⟩
  have hfree₁ : s₁.memoryBitmap.freeList = rest := hrest
  have hloop := Loop.foldlM_supply (fun u : Paging => u.memoryBitmap.freeList)
    (clonePageNeed s (frameOf (s.memory src i)))
    (f := clonePage (s.memory src i) (pageAddress table))
    (I := fun l u => s.CopyingTable src dst i table l u ∧
      t.Changes s.memoryBitmap dst (fun n => dirIndex n = i) (fun _ => False) u)
    (Q := fun u => u.Sound s.memoryBitmap dst)
    (fun u j l hu => by
      rcases hu.1.round hsrc hlow hi hpresent huser (frameOf_pageAddress htable) with
        ⟨u', hok, hle, hdrop, hcopying, hchanges⟩ | ⟨hlt, hfail⟩
      · exact Or.inl ⟨u', hok, hle, hdrop, hcopying, hu.2.trans hchanges⟩
      · exact Or.inr ⟨hlt, u, hfail, hu.1.sound⟩)
    (l := List.finRange 1024) ⟨hstart, hchanges₁⟩
  rw [hfreeList, List.length_cons]
  rw [hfree₁] at hloop
  rcases hloop with ⟨t', hok, hle, hdrop, hcopied, hchanges⟩ | ⟨hlt, t', hfail, hsound⟩
  · refine Or.inl ⟨t', hok, by omega, ?_, hchanges,
      fun n hn hdir => hcopied.done n hn hdir List.not_mem_nil⟩
    rw [hdrop, Nat.add_comm, List.drop_succ_cons]
  · exact Or.inr ⟨by omega, t', hfail, hsound⟩

/-! ### The whole address space -/

/-- The tables of the entries in `l` are still to come. -/
structure Paging.Copying (s : Paging) (src dst : Nat) (l : List (Fin 1024)) (t : Paging) :
    Prop where
  sound : t.Sound s.memoryBitmap dst
  same : s.SameOn s.memoryBitmap.Used t
  nodup : l.Nodup
  todo : ∀ i ∈ l, UserIndex i ∧ t.tableOf dst i = none
  done : ∀ n, UserPage n → dirIndex n ∉ l → s.Copied src dst t n

lemma Paging.Copying.round {i : Fin 1024} (h : s.Copying src dst (i :: l) t)
    {srcPd dstPd : BitVec 32} (hsrcPd : frameOf srcPd = src) (hdstPd : frameOf dstPd = dst) :
    (∃ t', cloneTable srcPd dstPd t i = .ok t' ∧
        cloneTableNeed s src i ≤ t.memoryBitmap.freeList.length ∧
        t'.memoryBitmap.freeList = t.memoryBitmap.freeList.drop (cloneTableNeed s src i) ∧
        s.Copying src dst l t') ∨
      t.memoryBitmap.freeList.length < cloneTableNeed s src i ∧
        ∃ t', cloneTable srcPd dstPd t i = .error t' ∧ t'.Sound s.memoryBitmap dst := by
  obtain ⟨hi, hempty⟩ := h.todo i (List.mem_cons_self ..)
  obtain ⟨hil, hnodup⟩ := List.nodup_cons.1 h.nodup
  rcases cloneTable_cases hsrc hlow h.sound h.same hi hempty hsrcPd hdstPd with
    ⟨t', hok, hle, hdrop, hchanges, hcopied⟩ | hfail
  swap
  · exact Or.inr hfail
  obtain ⟨-, -, htables⟩ := cloneTable_sound h.sound hlow hdstPd hi hempty (Or.inl hok)
  refine Or.inl ⟨t', hok, hle, hdrop, hchanges.sound, h.same.trans hchanges.same, hnodup,
    fun k hk => ?_, fun n hn hnot => ?_⟩
  · obtain ⟨huser, hnone⟩ := h.todo k (List.mem_cons_of_mem _ hk)
    have hki : k ≠ i := fun heq => hil (heq ▸ hk)
    exact ⟨huser, (htables k hki).trans hnone⟩
  · by_cases hni : dirIndex n = i
    · exact hcopied n hn hni
    · refine (h.done n hn fun hmem => ?_).of_changes hn.lt hchanges hni
      rcases List.mem_cons.1 hmem with heq | hmem
      · exact hni heq
      · exact hnot hmem

end

variable {srcPd : BitVec 32}

/-- A clone succeeds just when there are pages enough for it, and takes the first ones. Then it has
a copy of each page, and each copy can be written. If it fails, no page is taken. -/
lemma cloneUserAddressSpace_cases (hs : s.Booted k) (hsrcPd : srcPd &&& pageMask ≠ 0)
    (hsrc : s.InUse (frameOf srcPd)) :
    (s.memoryBitmap.freeList.length < cloneNeed s (frameOf srcPd) ∧
        (cloneUserAddressSpace k s srcPd).2 = 0 ∧
        (cloneUserAddressSpace k s srcPd).1.memoryBitmap = s.memoryBitmap) ∨
      cloneNeed s (frameOf srcPd) ≤ s.memoryBitmap.freeList.length ∧
        OwnDirectory k (cloneUserAddressSpace k s srcPd).2 ∧
        (cloneUserAddressSpace k s srcPd).1.memoryBitmap.freeList =
          s.memoryBitmap.freeList.drop (cloneNeed s (frameOf srcPd)) ∧
        s.Copying (frameOf srcPd) (frameOf (cloneUserAddressSpace k s srcPd).2) []
          (cloneUserAddressSpace k s srcPd).1 := by
  unfold cloneUserAddressSpace
  rw [if_neg hsrcPd]
  obtain ⟨r, hr⟩ : ∃ r, r = createUserPageDirectory k s := ⟨_, rfl⟩
  have hcreate : s.memoryBitmap.freeList = [] ∧ r = (s, 0) ∨ ∃ page rest,
      s.memoryBitmap.freeList = page :: rest ∧ r.2 = pageAddress page ∧
        r.1.memoryBitmap.freeList = rest := by
    rcases s.allocPage_freeList with ⟨hnil, halloc⟩ | ⟨page, rest, hfree, halloc, hrest⟩
    · exact Or.inl ⟨hnil, by rw [hr, createUserPageDirectory, halloc, if_pos rfl]⟩
    · have hzero := (pageAddress_ne_zero_of_free hs.low hfree).2.2
      refine Or.inr ⟨page, rest, hfree, ?_, ?_⟩ <;>
        rw [hr, createUserPageDirectory, halloc, if_neg hzero]
      exact hrest
  rcases hcreate with ⟨hnil, hfail⟩ | ⟨page, rest, hfree, hpage, hrest⟩
  · rw [← hr, hfail, hnil]
    exact Or.inl ⟨Nat.add_pos_left Nat.one_pos _, rfl, rfl⟩
  have hzero : r.2 ≠ 0 := hpage ▸ (pageAddress_ne_zero_of_free hs.low hfree).2.2
  rcases createUserPageDirectory_builds hs with hfail | ⟨hpd, hcreated, hempty, hsame⟩
  · exact absurd (congrArg Prod.snd (hr.trans hfail)) hzero
  rw [← hr] at hpd hcreated hsame hempty ⊢
  simp only [if_neg hzero, hpd.aligned]
  have hstart : s.Copying (frameOf srcPd) (frameOf r.2) ((List.finRange 1024).filter UserIndex)
      r.1 := by
    refine ⟨hcreated, hsame, (List.nodup_finRange 1024).filter _,
      fun i hi => ⟨by simpa using (List.mem_filter.1 hi).2, hempty i⟩, fun n hn hnot => ?_⟩
    have hi := (userIndex_dirIndex hn.lt).2 hn
    exact absurd (List.mem_filter.2 ⟨List.mem_finRange _, by simpa using hi⟩) hnot
  have hloop := Loop.foldlM_supply (fun u : Paging => u.memoryBitmap.freeList)
    (cloneTableNeed s (frameOf srcPd)) (f := cloneTable (srcPd &&& pageMask) r.2)
    (I := s.Copying (frameOf srcPd) (frameOf r.2))
    (Q := fun u => u.Sound s.memoryBitmap (frameOf r.2))
    (fun u i l hu => hu.round hsrc hs.low (frameOf_and_pageMask srcPd) rfl) hstart
  rw [hrest] at hloop
  rw [hfree, List.length_cons, cloneNeed]
  rcases hloop with ⟨t, hok, hle, hdrop, hcopied⟩ | ⟨hlt, t, hfail, hsound⟩
  · rw [hok]
    refine Or.inr ⟨by omega, hpd, ?_, hcopied⟩
    rw [hdrop, Nat.add_comm, List.drop_succ_cons]
  · rw [hfail]
    exact Or.inl ⟨by omega, rfl, (destroyUserAddressSpace_leaves hsound hs.low hpd).1⟩

lemma cloneUserAddressSpace_copies (hs : s.Booted k) (hsrc : s.InUse (frameOf srcPd))
    (hd : (cloneUserAddressSpace k s srcPd).2 ≠ 0) :
    s.Copying (frameOf srcPd) (frameOf (cloneUserAddressSpace k s srcPd).2) []
      (cloneUserAddressSpace k s srcPd).1 := by
  have hsrcPd : srcPd &&& pageMask ≠ 0 := fun hzero => hd (by
    rw [cloneUserAddressSpace, if_pos hzero])
  rcases cloneUserAddressSpace_cases hs hsrcPd hsrc with ⟨-, hfail, -⟩ | ⟨-, -, -, hcopies⟩
  · exact absurd hfail hd
  · exact hcopies

/-- The clone is faithful if and only if the parent may write all its pages. -/
theorem cloneUserAddressSpace_faithful_iff (hs : s.Booted k) {srcPd : BitVec 32}
    (hsrc : s.InUse (frameOf srcPd)) (hd : (cloneUserAddressSpace k s srcPd).2 ≠ 0) :
    FaithfulClone s (cloneUserAddressSpace k s srcPd).1 (frameOf srcPd)
        (frameOf (cloneUserAddressSpace k s srcPd).2) ↔
      ∀ n, UserPage n → ∀ e, s.userPte (frameOf srcPd) n = some e → e &&& pageRw ≠ 0 := by
  have hcopies := cloneUserAddressSpace_copies hs hsrc hd
  have hdone := fun n hn => hcopies.done n hn List.not_mem_nil
  constructor
  · intro h n hn e he
    obtain ⟨v, hv, -, -, hrw⟩ := h.mapped n hn e he
    obtain ⟨page, -, -, hentry, -⟩ := (hdone n hn).mapped e he
    rw [hentry, Option.some.injEq] at hv
    exact hrw.1 (hv ▸ userEntry_rw _)
  · intro h
    refine ⟨hcopies.sound, hcopies.same, fun n hn => (hdone n hn).unmapped, fun n hn e he => ?_⟩
    obtain ⟨page, hpage, hfree, hentry, hmem⟩ := (hdone n hn).mapped e he
    have hframe : frameOf (userEntry (pageAddress page)) = page := by
      rw [frameOf_userEntry, frameOf_pageAddress hpage]
    refine ⟨_, hentry, ?_, ?_, iff_of_true (userEntry_rw _) (h n hn e he)⟩
    · rwa [hframe]
    · rwa [hframe]

end

/-- The memory of a task that has mapped one page. -/
def mappedPage (prot : BitVec 32) : Paging := (sysMmap freshTask 0 0x1000 prot).1.paging

lemma mappedPage_ready (prot : BitVec 32) :
    (mappedPage prot).Booted kernelOf2MB ∧ (mappedPage prot).InUse (frameOf 0x200000) := by
  obtain ⟨hchanges, -⟩ := sysMmap_cases freshTask_sound 0 0x1000 prot
  have hs := hchanges.paging.sound
  have hsame := hchanges.paging.same
  have hdir : freshTask.pageDir = 0x200000 := rfl
  rw [hdir, ← mappedPage] at hs
  rw [← mappedPage] at hsame
  have hreserved : ∀ page < 512, below2MB.Used page := by decide +kernel
  refine ⟨⟨fun page hpage => hs.used_of_base (hreserved page ?_), fun i _ => ?_⟩, hs.inUse⟩
  · have hend : kernelOf2MB.kernelEnd = 0x200000 := rfl
    rw [hend, pageSize] at hpage
    omega
  · have hframe : frameOf kernelOf2MB.pageDirectory = 256 := by decide
    rw [hframe, hsame 256 (hreserved 256 (by decide))]
    exact BitVec.zero_and

/-- The child may write a page that its parent may only read. -/
theorem clone_not_faithful :
    (mappedPage 1).Booted kernelOf2MB ∧ (mappedPage 1).InUse (frameOf 0x200000) ∧
      (cloneUserAddressSpace kernelOf2MB (mappedPage 1) 0x200000).2 ≠ 0 ∧
      ¬ FaithfulClone (mappedPage 1) (cloneUserAddressSpace kernelOf2MB (mappedPage 1) 0x200000).1
        (frameOf 0x200000)
        (frameOf (cloneUserAddressSpace kernelOf2MB (mappedPage 1) 0x200000).2) := by
  obtain ⟨hbooted, hinUse⟩ := mappedPage_ready 1
  have hd : (cloneUserAddressSpace kernelOf2MB (mappedPage 1) 0x200000).2 ≠ 0 := by decide +kernel
  refine ⟨hbooted, hinUse, hd, fun h => ?_⟩
  have hn : UserPage 0x50000 := ⟨by decide, by decide⟩
  have he : (mappedPage 1).userPte (frameOf 0x200000) 0x50000 = some 0x201005 := by decide +kernel
  obtain ⟨v, hv, -, -, hrw⟩ := h.mapped 0x50000 hn _ he
  obtain ⟨page, -, -, hentry, -⟩ :=
    ((cloneUserAddressSpace_copies hbooted hinUse hd).done 0x50000 hn List.not_mem_nil).mapped _ he
  rw [hentry, Option.some.injEq] at hv
  exact hrw.1 (hv ▸ userEntry_rw _) (by decide)

/-- A space with one page is cloned. -/
theorem cloneUserAddressSpace_faithful_iff_mapped :
    (mappedPage 3).Booted kernelOf2MB ∧ (mappedPage 3).InUse (frameOf 0x200000) ∧
      (cloneUserAddressSpace kernelOf2MB (mappedPage 3) 0x200000).2 ≠ 0 ∧
      (FaithfulClone (mappedPage 3) (cloneUserAddressSpace kernelOf2MB (mappedPage 3) 0x200000).1
          (frameOf 0x200000)
          (frameOf (cloneUserAddressSpace kernelOf2MB (mappedPage 3) 0x200000).2) ↔
        ∀ n, UserPage n → ∀ e, (mappedPage 3).userPte (frameOf 0x200000) n = some e →
          e &&& pageRw ≠ 0) := by
  obtain ⟨hbooted, hinUse⟩ := mappedPage_ready 3
  have hd : (cloneUserAddressSpace kernelOf2MB (mappedPage 3) 0x200000).2 ≠ 0 := by decide +kernel
  exact ⟨hbooted, hinUse, hd, cloneUserAddressSpace_faithful_iff hbooted hinUse hd⟩

end NeuroSpark
