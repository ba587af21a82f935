import NeuroSpark.Lib.Machine
import NeuroSpark.Lib.Ownership
import NeuroSpark.Mem.Paging

/-!
# An address space gives back what it takes

Between its creation and its end an address space owns pages: its directory, its page tables and the
pages mapped in them. At every moment the bitmap is the one from before with exactly these pages
added, and each of them is owned in one place (`Paging.Sound`).
-/

namespace NeuroSpark

open Function (update update_self update_of_ne)

/-! ### The pages of an address space -/

/-- The places where a page can be used. -/
inductive Slot where
  | directory
  | table (i : Fin 1024)
  | page (i j : Fin 1024)
  deriving DecidableEq

/-- The page table that a directory has for entry `i`. -/
def Paging.tableOf (s : Paging) (dir : Nat) (i : Fin 1024) : Option Nat :=
  if UserIndex i ∧ s.memory dir i &&& pagePresent ≠ 0 then some (frameOf (s.memory dir i)) else none

/-- The page that a page table has for entry `j`. -/
def Paging.pageOf (s : Paging) (table : Nat) (j : Fin 1024) : Option Nat :=
  if s.memory table j &&& pagePresent ≠ 0 then some (frameOf (s.memory table j)) else none

/-- What the address space of a directory has in each place. -/
def Paging.owned (s : Paging) (dir : Nat) : Slot → Option Nat
  | .directory => some dir
  | .table i => s.tableOf dir i
  | .page i j => (s.tableOf dir i).bind fun table => s.pageOf table j

/-- The address space of `dir` accounts for what the bitmap has more than `base`, and its entries
have the user flag where they should. -/
structure Paging.Sound (base : Pmm) (s : Paging) (dir : Nat) : Prop where
  accounts : Ownership.Accounts base.Used (s.owned dir) s.memoryBitmap.Used
  userDir : ∀ i, UserIndex i → s.memory dir i &&& pagePresent ≠ 0 → s.memory dir i &&& pageUser ≠ 0
  kernelDir : ∀ i, ¬ UserIndex i → s.memory dir i &&& pageUser = 0
  userTable : ∀ i table, s.tableOf dir i = some table → ∀ j, s.memory table j &&& pagePresent ≠ 0 →
    s.memory table j &&& pageUser ≠ 0

lemma Paging.tableOf_congr {s s' : Paging} {dir : Nat} (h : s'.memory dir = s.memory dir)
    (i : Fin 1024) : s'.tableOf dir i = s.tableOf dir i := by
  rw [Paging.tableOf, Paging.tableOf, h]

lemma Paging.pageOf_congr {s s' : Paging} {table : Nat} (h : s'.memory table = s.memory table)
    (j : Fin 1024) : s'.pageOf table j = s.pageOf table j := by
  rw [Paging.pageOf, Paging.pageOf, h]

lemma Paging.pageOf_userEntry {s : Paging} {table page : Nat} {j : Fin 1024}
    (h : s.memory table j = userEntry (pageAddress page)) (hpage : page < pageCount) :
    s.pageOf table j = some page := by
  rw [Paging.pageOf, h, if_pos (userEntry_present _), frameOf_userEntry, frameOf_pageAddress hpage]

section

variable {base : Pmm} {s : Paging} {dir : Nat}

section

variable (hs : s.Sound base dir)
include hs

variable {table : Nat}

lemma Paging.Sound.table_ne_dir {i : Fin 1024}
    (h : s.tableOf dir i = some table) : table ≠ dir := by
  rintro rfl
  have : Slot.table i = Slot.directory := hs.accounts.unique h rfl
  cases this

lemma Paging.Sound.table_inj {i i' : Fin 1024} (h : s.tableOf dir i = some table)
    (h' : s.tableOf dir i' = some table) : i = i' := by
  have : Slot.table i = Slot.table i' := hs.accounts.unique h h'
  cases this
  rfl

lemma Paging.Sound.memory_setWord {i : Fin 1024} (htable : s.tableOf dir i = some table)
    (j : Fin 1024) (v : BitVec 32) : (s.setWord table j v).memory dir = s.memory dir := by
  rw [Paging.memory_setWord, if_neg (hs.table_ne_dir htable).symm]

lemma Paging.Sound.owned_setWord {i : Fin 1024} (htable : s.tableOf dir i = some table)
    (j : Fin 1024) (v : BitVec 32) :
    (s.setWord table j v).owned dir = update (s.owned dir) (.page i j)
      ((s.setWord table j v).pageOf table j) := by
  have hdir := hs.memory_setWord htable j v
  funext slot
  cases slot with
  | directory => rfl
  | table i' =>
    exact Paging.tableOf_congr hdir i'
  | page i' j' =>
    change ((s.setWord table j v).tableOf dir i').bind _ = _
    rw [Paging.tableOf_congr hdir]
    by_cases hi : i' = i
    · subst hi
      by_cases hj : j' = j
      · subst hj
        rw [update_self, htable, Option.bind_some]
      · rw [update_of_ne (by simp [hj])]
        simp only [Paging.owned, htable, Option.bind_some]
        rw [Paging.pageOf, Paging.memory_setWord, if_pos rfl, update_of_ne hj,
          Paging.pageOf]
    · rw [update_of_ne (by simp [hi])]
      simp only [Paging.owned]
      cases htable' : s.tableOf dir i' with
      | none => rfl
      | some table' =>
        have hne : table' ≠ table := fun h => hi (hs.table_inj htable' (h ▸ htable))
        exact Paging.pageOf_congr (by rw [Paging.memory_setWord, if_neg hne]) j'

lemma Paging.Sound.lt_pageCount {slot : Slot} {page : Nat}
    (h : s.owned dir slot = some page) : page < pageCount :=
  (hs.accounts.used_of_own h).lt

lemma Paging.Sound.not_low (hlow : ∀ page < 256, base.Used page) {slot : Slot} {page : Nat}
    (h : s.owned dir slot = some page) :
    0x100000 ≤ page * pageSize := by
  by_contra hlt
  refine hs.accounts.fresh h (hlow page ?_)
  unfold pageSize at hlt
  omega

omit hs in
lemma Paging.used_freePage {s : Paging} {page : Nat} (hlow : 0x100000 ≤ page * pageSize)
    (hlt : page < pageCount) {addr : BitVec 32} (haddr : addr.toNat = page * pageSize) (q : Nat) :
    (s.freePage addr).memoryBitmap.Used q ↔ q ≠ page ∧ s.memoryBitmap.Used q := by
  rw [Paging.freePage, haddr]
  exact used_pmmFreePage _ hlow hlt q

variable {i : Fin 1024} {table : Nat} {page : Nat}

/-- An entry of a page table is written, and the bitmap changes with it. -/
lemma Paging.Sound.of_setWord (htable : s.tableOf dir i = some table) {j : Fin 1024}
    {v : BitVec 32} {b : Pmm} (huser : v &&& pagePresent ≠ 0 → v &&& pageUser ≠ 0)
    (haccounts : Ownership.Accounts base.Used ((s.setWord table j v).owned dir) b.Used) :
    Paging.Sound base ⟨b, (s.setWord table j v).memory⟩ dir := by
  have hdir := hs.memory_setWord htable j v
  refine ⟨haccounts, fun k hk => ?_, fun k hk => ?_, fun k table' htable' l => ?_⟩
  · rw [hdir]
    exact hs.userDir k hk
  · rw [hdir]
    exact hs.kernelDir k hk
  · have hold := hs.userTable k table' ((Paging.tableOf_congr hdir k).symm.trans htable') l
    rw [Paging.memory_setWord]
    split_ifs with hsame
    · subst hsame
      by_cases hl : l = j
      · rwa [hl, update_self]
      · rwa [update_of_ne hl]
    · exact hold

lemma Paging.Sound.clearPage (hlow : ∀ page < 256, base.Used page)
    (htable : s.tableOf dir i = some table) {j : Fin 1024}
    (hpresent : s.memory table j &&& pagePresent ≠ 0) :
    ((s.freePage (s.memory table j &&& pageMask)).setWord table j 0).Sound base dir := by
  set page := frameOf (s.memory table j) with hpage
  have hslot : s.owned dir (.page i j) = some page := by
    simp only [Paging.owned, htable, Option.bind_some, Paging.pageOf, if_pos hpresent, hpage]
  have hused := Paging.used_freePage (s := s) (hs.not_low hlow hslot) (hs.lt_pageCount hslot)
    (toNat_and_pageMask (s.memory table j))
  have hnone : (s.setWord table j 0).pageOf table j = none := by
    simp [Paging.pageOf, Paging.memory_setWord]
  refine hs.of_setWord htable (fun h => absurd rfl h) (hs.accounts.drop hslot ?_ hused)
  rw [← hnone]
  exact hs.owned_setWord htable j 0

lemma Paging.Sound.mapInTable (htable : s.tableOf dir i = some table) {j : Fin 1024}
    (hempty : s.owned dir (.page i j) = none) (hpage : page < pageCount)
    (hfree : ¬ s.memoryBitmap.Used page) {t : Paging} (hmem : t.memory = s.memory)
    (hused : ∀ q, t.memoryBitmap.Used q ↔ q = page ∨ s.memoryBitmap.Used q) :
    (t.setWord table j (userEntry (pageAddress page))).Sound base dir := by
  obtain ⟨b, memory⟩ := t
  obtain rfl : memory = s.memory := hmem
  have hnew : (s.setWord table j (userEntry (pageAddress page))).pageOf table j = some page :=
    Paging.pageOf_userEntry (by rw [Paging.memory_setWord, if_pos rfl, update_self]) hpage
  refine hs.of_setWord htable (fun _ => userEntry_user _)
    (hs.accounts.take hempty hfree ?_ hused)
  rw [← hnew]
  exact hs.owned_setWord htable j _

lemma Paging.Sound.owned_setDirectory (i : Fin 1024) (v : BitVec 32) :
    (∀ i' ≠ i, (s.setWord dir i v).owned dir (.table i') = s.owned dir (.table i')) ∧
      ∀ i' ≠ i, ∀ j, (s.setWord dir i v).owned dir (.page i' j) = s.owned dir (.page i' j) := by
  have htables : ∀ i' ≠ i, (s.setWord dir i v).tableOf dir i' = s.tableOf dir i' := by
    intro i' hi
    rw [Paging.tableOf, Paging.memory_setWord, if_pos rfl, update_of_ne hi, Paging.tableOf]
  refine ⟨htables, fun i' hi j => ?_⟩
  simp only [Paging.owned, htables i' hi]
  cases htable : s.tableOf dir i' with
  | none => rfl
  | some table =>
    exact Paging.pageOf_congr (by rw [Paging.memory_setWord, if_neg (hs.table_ne_dir htable)]) j

lemma Paging.Sound.owned_update {v : BitVec 32}
    (hpages : ∀ j, (s.setWord dir i v).owned dir (.page i j) = s.owned dir (.page i j)) :
    (s.setWord dir i v).owned dir =
      update (s.owned dir) (.table i) ((s.setWord dir i v).tableOf dir i) := by
  obtain ⟨htables, hother⟩ := hs.owned_setDirectory i v
  funext slot
  cases slot with
  | directory => rfl
  | table k =>
    by_cases hk : k = i
    · subst hk
      rw [update_self]
      rfl
    · rw [update_of_ne (by simpa using hk)]
      exact htables k hk
  | page k j =>
    rw [update_of_ne (by simp)]
    by_cases hk : k = i
    · exact hk ▸ hpages j
    · exact hother k hk j

/-- An entry of the directory is written, for a table without entries or for none, and the bitmap
changes with it. -/
lemma Paging.Sound.of_setDirectory (hi : UserIndex i) {v : BitVec 32} {b : Pmm}
    (huser : v &&& pagePresent ≠ 0 → v &&& pageUser ≠ 0)
    (hclear : ∀ table, (s.setWord dir i v).tableOf dir i = some table →
      ∀ j, (s.setWord dir i v).memory table j = 0)
    (haccounts : Ownership.Accounts base.Used ((s.setWord dir i v).owned dir) b.Used) :
    Paging.Sound base ⟨b, (s.setWord dir i v).memory⟩ dir := by
  have hdir : (s.setWord dir i v).memory dir = update (s.memory dir) i v := by
    rw [Paging.memory_setWord, if_pos rfl]
  refine ⟨haccounts, fun k hk => ?_, fun k hk => ?_, fun k table htable l => ?_⟩
  · rw [hdir]
    by_cases hki : k = i
    · rwa [hki, update_self]
    · rw [update_of_ne hki]
      exact hs.userDir k hk
  · have hki : k ≠ i := fun h => hk (h ▸ hi)
    rw [hdir, update_of_ne hki]
    exact hs.kernelDir k hk
  · by_cases hki : k = i
    · intro hpresent
      rw [hclear table (hki ▸ htable) l] at hpresent
      exact absurd rfl hpresent
    · have hold := ((hs.owned_setDirectory i v).1 k hki).symm.trans htable
      rw [Paging.memory_setWord, if_neg (hs.table_ne_dir hold)]
      exact hs.userTable k table hold l

lemma Paging.Sound.setPage_of_ne (hdir : dir ≠ page)
    (htable : ∀ k table, s.tableOf dir k = some table → table ≠ page)
    (words : Fin 1024 → BitVec 32) : (s.setPage page words).Sound base dir := by
  have hdir : (s.setPage page words).memory dir = s.memory dir := by
    rw [Paging.memory_setPage, if_neg hdir]
  have hmemTable : ∀ k table, s.tableOf dir k = some table →
      (s.setPage page words).memory table = s.memory table := fun k table h => by
    rw [Paging.memory_setPage, if_neg (htable k table h)]
  refine ⟨hs.accounts.congr (fun slot => ?_) fun _ => Iff.rfl, fun k hk => ?_, fun k hk => ?_,
    fun k table htable l => ?_⟩
  · cases slot with
    | directory => rfl
    | table k => exact Paging.tableOf_congr hdir k
    | page k j =>
      simp only [Paging.owned, Paging.tableOf_congr hdir]
      cases htable : s.tableOf dir k with
      | none => rfl
      | some table => exact Paging.pageOf_congr (hmemTable k table htable) j
  · rw [hdir]
    exact hs.userDir k hk
  · rw [hdir]
    exact hs.kernelDir k hk
  · rw [Paging.tableOf_congr hdir] at htable
    rw [hmemTable k table htable]
    exact hs.userTable k table htable l

lemma Paging.Sound.setPage_free (hfree : ¬ s.memoryBitmap.Used page)
    (words : Fin 1024 → BitVec 32) :
    (s.setPage page words).Sound base dir := by
  have hne : ∀ (slot : Slot) {q : Nat}, s.owned dir slot = some q → q ≠ page :=
    fun _ _ hq h => hfree (h ▸ hs.accounts.used_of_own hq)
  exact hs.setPage_of_ne (hne .directory rfl) (fun k _ h => hne (.table k) h) words

/-- Put an empty table into the directory. -/
lemma Paging.Sound.addTable (hi : UserIndex i) (hempty : s.tableOf dir i = none)
    (htable : table < pageCount) (hfree : ¬ s.memoryBitmap.Used table) {t : Paging}
    (hmem : t.memory = s.memory)
    (hused : ∀ q, t.memoryBitmap.Used q ↔ q = table ∨ s.memoryBitmap.Used q) :
    ((t.setPage table fun _ => 0).setWord dir i (userEntry (pageAddress table))).Sound base dir ∧
      ((t.setPage table fun _ => 0).setWord dir i (userEntry (pageAddress table))).tableOf dir i =
        some table ∧
      ∀ j, ((t.setPage table fun _ => 0).setWord dir i (userEntry (pageAddress table))).owned dir
        (.page i j) = none := by
  obtain ⟨b, memory⟩ := t
  obtain rfl : memory = s.memory := hmem
  have hs' := hs.setPage_free hfree fun _ => 0
  have hne : table ≠ dir := fun h => hfree (h ▸ hs.accounts.used_of_own (s := .directory) rfl)
  have hempty' : (s.setPage table fun _ => 0).tableOf dir i = none := by
    rw [← hempty]
    exact Paging.tableOf_congr (by rw [Paging.memory_setPage, if_neg hne.symm]) i
  set u := (s.setPage table fun _ => 0).setWord dir i (userEntry (pageAddress table)) with hu
  have hudir : u.memory dir = update (s.memory dir) i (userEntry (pageAddress table)) := by
    rw [hu, Paging.memory_setWord, if_pos rfl, Paging.memory_setPage, if_neg hne.symm]
  have hutable : u.memory table = fun _ => 0 := by
    rw [hu, Paging.memory_setWord, if_neg hne, Paging.memory_setPage, if_pos rfl]
  have hnew : u.tableOf dir i = some table := by
    rw [Paging.tableOf, hudir, update_self, if_pos ⟨hi, userEntry_present _⟩,
      frameOf_userEntry, frameOf_pageAddress htable]
  have hnewPages : ∀ j, u.owned dir (.page i j) = none := by
    intro j
    simp only [Paging.owned, hnew, Option.bind_some, Paging.pageOf, hutable]
    rw [if_neg (by decide)]
  have hown := hs'.owned_update (i := i) (v := userEntry (pageAddress table)) fun j => by
    rw [hnewPages j]
    simp only [Paging.owned, hempty', Option.bind_none]
  refine ⟨hs'.of_setDirectory hi (fun _ => userEntry_user _) (fun table' h j => ?_) ?_, hnew,
    hnewPages⟩
  · obtain rfl := Option.some.inj (hnew.symm.trans h)
    exact congrFun hutable j
  · exact hs'.accounts.take (s := .table i) hempty' hfree (hnew ▸ hown) hused

/-- Free a table whose entries are clear, and clear its entry in the directory. -/
lemma Paging.Sound.clearTable (hlow : ∀ page < 256, base.Used page)
    (htable : s.tableOf dir i = some table) (hclear : ∀ j, s.pageOf table j = none)
    {addr : BitVec 32} (haddr : addr.toNat = table * pageSize) :
    ((s.freePage addr).setWord dir i 0).Sound base dir ∧
      ((s.freePage addr).setWord dir i 0).tableOf dir i = none ∧
      ∀ k, s.tableOf dir k = none → ((s.freePage addr).setWord dir i 0).tableOf dir k = none := by
  have hslot : s.owned dir (.table i) = some table := htable
  have hused := Paging.used_freePage (s := s) (hs.not_low hlow hslot) (hs.lt_pageCount hslot) haddr
  set u := s.setWord dir i 0 with hu
  have hudir : u.memory dir = update (s.memory dir) i 0 := by
    rw [hu, Paging.memory_setWord, if_pos rfl]
  have hnone : u.tableOf dir i = none := by
    rw [Paging.tableOf, hudir, update_self, if_neg (by simp)]
  have hother : ∀ k, s.tableOf dir k = none → u.tableOf dir k = none := by
    intro k hk
    by_cases hki : k = i
    · rw [hki, hnone]
    · exact ((hs.owned_setDirectory i 0).1 k hki).trans hk
  have hown := hs.owned_update (i := i) (v := 0) fun j => by
    rw [← hu]
    simp [Paging.owned, hnone, htable, hclear]
  rw [← hu, hnone] at hown
  have hi : UserIndex i := by
    by_contra hi
    simp [Paging.tableOf, hi] at htable
  refine ⟨hs.of_setDirectory hi (fun h => absurd rfl h) (fun table' h => ?_)
    (hs.accounts.drop hslot hown hused), hnone, hother⟩
  cases hnone.symm.trans h

end

end

/-! ### What the functions keep -/

/-- One round of `map_user_pages_for_range`, at an address that is not mapped. -/
def mapFreshPage (s : Paging) (pd virtAddr : BitVec 32) : Paging :=
  let r := s.allocPage
  if r.2 = 0 then r.1
  else
    let m := mapUserPage r.1 pd r.2 virtAddr
    if m.2 then m.1 else m.1.freePage (r.2 &&& pageMask)

section

variable {base : Pmm} {s : Paging} {dir : Nat} {pd : BitVec 32} {page : Nat}

lemma zero_and_pageMask : (0 : BitVec 32) &&& pageMask = 0 := by decide

lemma freePage_allocPage (hpage : page < pageCount) (hlow : 0x100000 ≤ page * pageSize)
    (hfree : ¬ s.memoryBitmap.Used page) :
    (Paging.mk (pmmSetPage s.memoryBitmap (page * pageSize)) s.memory).freePage
      (pageAddress page &&& pageMask) = s := by
  have haddr : (pageAddress page &&& pageMask).toNat = page * pageSize := by
    rw [pageAddress_and_pageMask hpage, toNat_pageAddress hpage]
  have hbits : pmmFreePage (pmmSetPage s.memoryBitmap (page * pageSize)) (page * pageSize) =
      s.memoryBitmap := by
    refine Pmm.ext_used fun q => ?_
    rw [used_pmmFreePage _ hlow hpage, used_pmmSetPage _ hpage]
    constructor
    · rintro ⟨hne, heq | hused⟩
      · exact absurd heq hne
      · exact hused
    · intro hused
      refine ⟨?_, Or.inr hused⟩
      rintro rfl
      exact hfree hused
  rw [Paging.freePage, haddr, hbits]

lemma low_of_not_used {b : Pmm} (hlow : ∀ page < 256, b.Used page)
    (hfree : ¬ b.Used page) : 0x100000 ≤ page * pageSize ∧ page ≠ 0 := by
  have : 256 ≤ page := by
    by_contra hlt
    exact hfree (hlow page (not_le.1 hlt))
  unfold pageSize
  omega

lemma Paging.Sound.takeOther (hs : s.Sound base dir) (hpage : page < pageCount)
    (hfree : ¬ s.memoryBitmap.Used page) :
    (Paging.mk (pmmSetPage s.memoryBitmap (page * pageSize)) s.memory).Sound
      (pmmSetPage base (page * pageSize)) dir :=
  ⟨hs.accounts.takeOther hfree (used_pmmSetPage base hpage) (used_pmmSetPage _ hpage), hs.userDir,
    hs.kernelDir, hs.userTable⟩

lemma Paging.Sound.loseEntry (hs : s.Sound base dir) (hlow : ∀ page < 256, base.Used page)
    {i : Fin 1024} {table : Nat} (htable : s.tableOf dir i = some table) {j : Fin 1024}
    (hpresent : s.memory table j &&& pagePresent ≠ 0) :
    (s.setWord table j 0).Sound
      (pmmSetPage base (frameOf (s.memory table j) * pageSize)) dir := by
  set page := frameOf (s.memory table j) with hpage
  have hslot : s.owned dir (.page i j) = some page := by
    simp only [Paging.owned, htable, Option.bind_some, Paging.pageOf, if_pos hpresent, hpage]
  have hlt := hs.lt_pageCount hslot
  have hused := Paging.used_freePage (s := s) (hs.not_low hlow hslot) hlt
    (toNat_and_pageMask (s.memory table j))
  have hcleared := hs.clearPage hlow htable hpresent
  have hother := hcleared.takeOther hlt fun hbad => ((hused page).1 hbad).1 rfl
  have hback : pmmSetPage (s.freePage (s.memory table j &&& pageMask)).memoryBitmap
      (page * pageSize) = s.memoryBitmap := by
    refine Pmm.ext_used fun q => ?_
    rw [used_pmmSetPage _ hlt, hused]
    constructor
    · rintro (rfl | ⟨-, hq⟩)
      · exact hs.accounts.used_of_own hslot
      · exact hq
    · intro hq
      by_cases hqp : q = page
      · exact Or.inl hqp
      · exact Or.inr ⟨hqp, hq⟩
  rwa [Paging.memoryBitmap_setWord, hback] at hother

lemma Paging.owned_setWord_userEntry {i j : Fin 1024} {table page : Nat}
    (htable : s.tableOf dir i = some table) (hne : table ≠ dir) (hpage : page < pageCount) :
    (s.setWord table j (userEntry (pageAddress page))).owned dir (.page i j) = some page := by
  have htable' : (s.setWord table j (userEntry (pageAddress page))).tableOf dir i = some table := by
    rw [← htable]
    exact Paging.tableOf_congr (by rw [Paging.memory_setWord, if_neg hne.symm]) i
  simp only [Paging.owned, htable', Option.bind_some]
  exact Paging.pageOf_userEntry (by rw [Paging.memory_setWord, if_pos rfl, update_self])
    hpage

variable (hs : s.Sound base dir) (hlow : ∀ page < 256, base.Used page)
include hs hlow

variable {i : Fin 1024}

lemma Paging.Sound.mapOver {table : Nat} (htable : s.tableOf dir i = some table) (j : Fin 1024)
    {page : Nat} (hpage : page < pageCount) (hfree : ¬ s.memoryBitmap.Used page) :
    ∃ base' : Pmm, (∀ q, base.Used q → base'.Used q) ∧
      (s.owned dir (.page i j) = none → base' = base) ∧
      ((Paging.mk (pmmSetPage s.memoryBitmap (page * pageSize)) s.memory).setWord table j
        (userEntry (pageAddress page))).Sound base' dir := by
  by_cases hpresent : s.memory table j &&& pagePresent = 0
  · have hempty : s.owned dir (.page i j) = none := by
      simp [Paging.owned, htable, Paging.pageOf, hpresent]
    exact ⟨base, fun _ h => h, fun _ => rfl,
      hs.mapInTable htable hempty hpage hfree rfl (used_pmmSetPage _ hpage)⟩
  · have hslot : s.owned dir (.page i j) = some (frameOf (s.memory table j)) := by
      simp only [Paging.owned, htable, Option.bind_some, Paging.pageOf, if_pos hpresent]
    have hlost := hs.loseEntry hlow htable hpresent
    have hdir := hs.memory_setWord htable j 0
    have htable' : (s.setWord table j 0).tableOf dir i = some table :=
      (Paging.tableOf_congr hdir i).trans htable
    have hempty : (s.setWord table j 0).owned dir (.page i j) = none := by
      simp only [Paging.owned, htable', Option.bind_some]
      simp [Paging.pageOf, Paging.memory_setWord]
    refine ⟨pmmSetPage base (frameOf (s.memory table j) * pageSize), fun q hq => ?_,
      fun hnone => ?_, ?_⟩
    · exact (used_pmmSetPage base (hs.lt_pageCount hslot) q).2 (Or.inr hq)
    · simp [hslot] at hnone
    · have hmapped := hlost.mapInTable htable' hempty hpage hfree
        (t := ⟨pmmSetPage s.memoryBitmap (page * pageSize), (s.setWord table j 0).memory⟩) rfl
        (used_pmmSetPage _ hpage)
      have htwice : (Paging.mk (pmmSetPage s.memoryBitmap (page * pageSize))
          (s.setWord table j 0).memory).setWord table j (userEntry (pageAddress page)) =
          (Paging.mk (pmmSetPage s.memoryBitmap (page * pageSize)) s.memory).setWord table j
            (userEntry (pageAddress page)) := by
        simp [Paging.setWord, Paging.setPage]
      rwa [htwice] at hmapped

/-- `map_user_page` of a page that was taken last: it is mapped, or there was no page for a table.
The page that was mapped at the address before, if any, is lost. -/
lemma mapUserPage_sound (hpd : pd &&& pageMask ≠ 0) (hdir : frameOf pd = dir) {va : BitVec 32}
    (hlo : userVaddrMin ≤ va) (hhi : va ≤ userVaddrMax) {page : Nat} (hpage : page < pageCount)
    (hfree : ¬ s.memoryBitmap.Used page) {t : Paging}
    (ht : t = ⟨pmmSetPage s.memoryBitmap (page * pageSize), s.memory⟩) :
    mapUserPage t pd (pageAddress page) va = (t, false) ∨
      (mapUserPage t pd (pageAddress page) va).2 = true ∧
        ∃ base' : Pmm, (∀ q, base.Used q → base'.Used q) ∧
          (s.owned dir (.page (pdIndex va) (ptIndex va)) = none → base' = base) ∧
          (mapUserPage t pd (pageAddress page) va).1.Sound base' dir ∧
          (mapUserPage t pd (pageAddress page) va).1.owned dir (.page (pdIndex va) (ptIndex va)) =
            some page := by
  have hlow' : ∀ page < 256, s.memoryBitmap.Used page := fun page hpage =>
    (hs.accounts.used_iff page).2 (Or.inl (hlow page hpage))
  have hused : ∀ q, t.memoryBitmap.Used q ↔ q = page ∨ s.memoryBitmap.Used q := by
    rw [ht]
    exact used_pmmSetPage _ hpage
  have hmem : t.memory = s.memory := by rw [ht]
  have hi := userIndex_pdIndex hlo hhi
  simp only [mapUserPage, hpd, if_false, frameOf_and_pageMask, hdir, hmem]
  by_cases hpresent : s.memory dir (pdIndex va) &&& pagePresent = 0
  · have hnone : s.tableOf dir (pdIndex va) = none := by
      rw [Paging.tableOf, if_neg (by simp [hpresent])]
    rw [if_pos hpresent]
    rcases t.allocPage_cases with halloc' | ⟨table, htable, htfree, halloc'⟩
    · left
      simp only [halloc', if_true]
    · right
      have htfree' : ¬ s.memoryBitmap.Used table := fun h => htfree ((hused table).2 (Or.inr h))
      have hne : table ≠ page := fun h => htfree ((hused table).2 (Or.inl h))
      obtain ⟨-, htable0⟩ := low_of_not_used hlow' htfree'
      simp only [halloc', pageAddress_ne_zero htable htable0, if_false,
        frameOf_pageAddress htable, hmem]
      obtain ⟨hs', htableOf, hpages⟩ := hs.addTable hi hnone htable htfree'
        (t := ⟨pmmSetPage s.memoryBitmap (table * pageSize), s.memory⟩) rfl
        (used_pmmSetPage _ htable)
      refine ⟨trivial, base, fun _ h => h, fun _ => rfl, ?_,
        Paging.owned_setWord_userEntry htableOf (hs'.table_ne_dir htableOf) hpage⟩
      refine hs'.mapInTable htableOf (hpages _) hpage ?_ rfl fun q => ?_
      · intro hbad
        rcases (used_pmmSetPage _ htable page).1 hbad with heq | hbad
        · exact hne heq.symm
        · exact hfree hbad
      · change (pmmSetPage t.memoryBitmap _).Used q ↔
          q = page ∨ (pmmSetPage s.memoryBitmap _).Used q
        rw [used_pmmSetPage _ htable, used_pmmSetPage _ htable, hused]
        exact or_left_comm
  · right
    have htableOf : s.tableOf dir (pdIndex va) = some (frameOf (s.memory dir (pdIndex va))) := by
      rw [Paging.tableOf, if_pos ⟨hi, hpresent⟩]
    rw [if_neg hpresent, ht]
    obtain ⟨base', hbase, hsame, hs'⟩ := hs.mapOver hlow htableOf (ptIndex va) hpage hfree
    exact ⟨rfl, base', hbase, hsame, hs',
      Paging.owned_setWord_userEntry htableOf (hs.table_ne_dir htableOf) hpage⟩

lemma mapFreshPage_sound (hpd : pd &&& pageMask ≠ 0) (hdir : frameOf pd = dir) {va : BitVec 32}
    (hlo : userVaddrMin ≤ va) (hhi : va ≤ userVaddrMax) :
    ∃ base' : Pmm, (∀ q, base.Used q → base'.Used q) ∧
      (s.owned dir (.page (pdIndex va) (ptIndex va)) = none → base' = base) ∧
      (mapFreshPage s pd va).Sound base' dir := by
  rcases s.allocPage_cases with halloc | ⟨page, hpage, hfree, halloc⟩
  · exact ⟨base, fun _ h => h, fun _ => rfl, by simpa [mapFreshPage, halloc] using hs⟩
  obtain ⟨hpageLow, hpage0⟩ := low_of_not_used
    (fun page hpage => (hs.accounts.used_iff page).2 (Or.inl (hlow page hpage))) hfree
  simp only [mapFreshPage, halloc, pageAddress_ne_zero hpage hpage0, if_false]
  rcases mapUserPage_sound hs hlow hpd hdir hlo hhi hpage hfree rfl with
    hfail | ⟨hok, base', hbase, hsame, hmapped, -⟩
  · -- no page for the table: the caller frees the first page again
    rw [hfail, if_neg (by simp), freePage_allocPage hpage hpageLow hfree]
    exact ⟨base, fun _ h => h, fun _ => rfl, hs⟩
  · rw [if_pos hok]
    exact ⟨base', hbase, hsame, hmapped⟩

lemma unmapUserPage_sound (hdir : frameOf pd = dir) (va : BitVec 32) :
    (unmapUserPage s pd va).1.Sound base dir := by
  simp only [unmapUserPage, frameOf_and_pageMask, hdir]
  split_ifs with hpd hpde hpte
  · exact hs
  · exact hs
  · exact hs
  · obtain ⟨hpresent, huser⟩ := not_or.1 hpde
    have hi : UserIndex (pdIndex va) := by
      by_contra hi
      exact huser (hs.kernelDir _ hi)
    have htable : s.tableOf dir (pdIndex va) = some (frameOf (s.memory dir (pdIndex va))) := by
      rw [Paging.tableOf, if_pos ⟨hi, hpresent⟩]
    exact hs.clearPage hlow htable (not_or.1 hpte).1

/-- The inner loop frees the pages of a table and clears its entries. -/
lemma foldl_destroyPage_sound {pde : BitVec 32} (htable : s.tableOf dir i = some (frameOf pde))
    (l : List (Fin 1024)) :
    (l.foldl (destroyPage pde) s).Sound base dir ∧
      (l.foldl (destroyPage pde) s).memory dir = s.memory dir ∧
      ∀ j, j ∈ l ∨ s.pageOf (frameOf pde) j = none →
        (l.foldl (destroyPage pde) s).pageOf (frameOf pde) j = none := by
  induction l generalizing s with
  | nil => exact ⟨hs, rfl, by simp⟩
  | cons a l ih =>
    have hne := hs.table_ne_dir htable
    have hstep : (destroyPage pde s a).Sound base dir ∧
        (destroyPage pde s a).memory dir = s.memory dir ∧
        ∀ j, j = a ∨ s.pageOf (frameOf pde) j = none →
          (destroyPage pde s a).pageOf (frameOf pde) j = none := by
      simp only [destroyPage]
      split_ifs with hpte
      · refine ⟨hs.clearPage hlow htable hpte.1, ?_, fun j hj => ?_⟩
        · rw [Paging.memory_setWord, if_neg hne.symm]
          rfl
        · rw [Paging.pageOf, Paging.memory_setWord, if_pos rfl]
          by_cases hja : j = a
          · rw [hja, update_self, if_neg (by decide)]
          · rw [update_of_ne hja]
            exact hj.resolve_left hja
      · refine ⟨hs, rfl, fun j hj => ?_⟩
        rcases hj with rfl | hj
        · have huser := hs.userTable i _ htable j
          rw [Paging.pageOf, if_neg fun hpresent => hpte ⟨hpresent, huser hpresent⟩]
        · exact hj
    obtain ⟨hs', hmem, hclear⟩ := hstep
    have htable' := (Paging.tableOf_congr hmem i).trans htable
    obtain ⟨hs'', hmem', hclear'⟩ := ih hs' htable'
    refine ⟨hs'', hmem'.trans hmem, fun j hj => hclear' j ?_⟩
    rcases hj with hj | hj
    · rcases List.mem_cons.1 hj with rfl | hj
      · exact Or.inr (hclear j (Or.inl rfl))
      · exact Or.inl hj
    · exact Or.inr (hclear j (Or.inr hj))

lemma destroyTable_sound (hdir : frameOf pd = dir) (hi : UserIndex i) :
    (destroyTable pd s i).Sound base dir ∧
      ∀ k, k = i ∨ s.tableOf dir k = none →
        (destroyTable pd s i).tableOf dir k = none := by
  simp only [destroyTable, hdir]
  split_ifs with hpde
  · refine ⟨hs, fun k hk => ?_⟩
    rcases hk with rfl | hk
    · rw [Paging.tableOf, if_neg]
      rintro ⟨-, hpresent⟩
      rcases hpde with hpde | hpde
      · exact hpresent hpde
      · exact hs.userDir k hi hpresent hpde
    · exact hk
  · set pde := s.memory dir i with hpdeEq
    have htable : s.tableOf dir i = some (frameOf pde) := by
      rw [Paging.tableOf, if_pos ⟨hi, (not_or.1 hpde).1⟩]
    obtain ⟨hs', hmem, hclear⟩ := foldl_destroyPage_sound hs hlow htable (List.finRange 1024)
    have htable' := (Paging.tableOf_congr hmem i).trans htable
    obtain ⟨hs'', hnone, hother⟩ := hs'.clearTable hlow htable'
      (fun j => hclear j (Or.inl (List.mem_finRange j))) (toNat_and_pageMask pde)
    refine ⟨hs'', fun k hk => ?_⟩
    rcases hk with rfl | hk
    · exact hnone
    · exact hother k ((Paging.tableOf_congr hmem k).trans hk)

lemma foldl_destroyTable_sound (hdir : frameOf pd = dir) {l : List (Fin 1024)}
    (hl : ∀ i ∈ l, UserIndex i) :
    (l.foldl (destroyTable pd) s).Sound base dir ∧
      ∀ k, k ∈ l ∨ s.tableOf dir k = none →
        (l.foldl (destroyTable pd) s).tableOf dir k = none := by
  induction l generalizing s with
  | nil => exact ⟨hs, by simp⟩
  | cons a l ih =>
    obtain ⟨hs', hnone⟩ := destroyTable_sound hs hlow hdir (hl a (List.mem_cons_self ..))
    obtain ⟨hs'', hnone'⟩ := ih hs' fun i hi => hl i (List.mem_cons_of_mem _ hi)
    refine ⟨hs'', fun k hk => hnone' k ?_⟩
    rcases hk with hk | hk
    · rcases List.mem_cons.1 hk with rfl | hk
      · exact Or.inr (hnone k (Or.inl rfl))
      · exact Or.inl hk
    · exact Or.inr (hnone k (Or.inr hk))

lemma memoryBitmap_destroyUserAddressSpace {k : KernelLayout} (hpd : pd &&& pageMask ≠ 0)
    (hk : pd &&& pageMask ≠ k.pageDirectory) (hdir : frameOf pd = dir) :
    (destroyUserAddressSpace k s pd).memoryBitmap = base := by
  rw [destroyUserAddressSpace, if_neg (not_or.2 ⟨hpd, hk⟩)]
  obtain ⟨hs', hnone⟩ := foldl_destroyTable_sound hs hlow ((frameOf_and_pageMask pd).trans hdir)
    (l := (List.finRange 1024).filter UserIndex) (by simp)
  set u := ((List.finRange 1024).filter UserIndex).foldl (destroyTable (pd &&& pageMask)) s
  have htables : ∀ i, u.tableOf dir i = none := by
    intro i
    by_cases hi : UserIndex i
    · exact hnone i (Or.inl (by simpa using hi))
    · rw [Paging.tableOf, if_neg fun h => hi h.1]
  have hslots : ∀ slot, slot ≠ .directory → u.owned dir slot = none := by
    intro slot hslot
    cases slot with
    | directory => exact absurd rfl hslot
    | table i => exact htables i
    | page i j => simp [Paging.owned, htables i]
  have hself : u.owned dir .directory = some dir := rfl
  have hused := Paging.used_freePage (s := u) (hs'.not_low hlow hself) (hs'.lt_pageCount hself)
    ((toNat_and_pageMask pd).trans (by rw [hdir]))
  have hupdate : (fun _ => none) = update (u.owned dir) .directory none := by
    funext slot
    by_cases hslot : slot = .directory
    · rw [hslot, update_self]
    · rw [update_of_ne hslot, hslots slot hslot]
  have hgone := hs'.accounts.drop hself hupdate hused
  exact Pmm.ext_used (hgone.used_eq_base fun _ => rfl)

end

/-! ### Life cycle -/

/-- A bitmap with the pages of the kernel image in use. -/
structure ReservedPmm (k : KernelLayout) where
  memoryBitmap : Pmm
  reserved : ∀ page, page * pageSize < k.kernelEnd → memoryBitmap.Used page

/-- What `init_pmm` leaves. -/
def ReservedPmm.init (k : KernelLayout) : ReservedPmm k where
  memoryBitmap := initPmm k
  reserved page hpage := by
    have hfits := k.fits
    unfold pageSize at hpage hfits
    refine (used_foldl_pmmSetPage (fun i hi => ?_) _ page).2 (Or.inl ?_)
    · rw [List.mem_range] at hi
      unfold pageSize at hi
      omega
    · rw [List.mem_range]
      unfold pageSize
      omega

lemma ReservedPmm.low {k : KernelLayout} (b : ReservedPmm k) :
    ∀ page < 256, b.memoryBitmap.Used page := by
  intro page hpage
  have := k.directory_in_bss
  refine b.reserved page ?_
  unfold pageSize at *
  omega

structure AddressSpace where
  paging : Paging
  pdPhys : BitVec 32

def AddressSpace.create (k : KernelLayout) (s : Paging) : AddressSpace :=
  ⟨(createUserPageDirectory k s).1, (createUserPageDirectory k s).2⟩

/-- What an address space has in each place; nothing, if it could not be created. -/
def AddressSpace.owned (a : AddressSpace) (slot : Slot) : Option Nat :=
  if a.pdPhys = 0 then none else a.paging.owned (frameOf a.pdPhys) slot

/-- No page is used in two places: as two mapped pages, as two tables, or as one of each. -/
def AddressSpace.NoAlias (a : AddressSpace) : Prop :=
  ∀ u v page, a.owned u = some page → a.owned v = some page → u = v

inductive SpaceOp where
  | map (virtAddr : BitVec 32)
  | unmap (virtAddr : BitVec 32)

def spaceStep (a : AddressSpace) : SpaceOp → AddressSpace × Unit
  | .map virtAddr => ({ a with paging := mapFreshPage a.paging a.pdPhys virtAddr }, ())
  | .unmap virtAddr => ({ a with paging := (unmapUserPage a.paging a.pdPhys virtAddr).1 }, ())

lemma spaceStep_map (s : Paging) (pd va : BitVec 32) :
    (spaceStep ⟨s, pd⟩ (.map va)).1 = ⟨mapFreshPage s pd va, pd⟩ := rfl

/-- Pages are mapped at user addresses that are not mapped. -/
def MapsUnmapped (a : AddressSpace) : SpaceOp → Prop
  | .map virtAddr => userVaddrMin ≤ virtAddr ∧ virtAddr ≤ userVaddrMax ∧
      a.owned (.page (pdIndex virtAddr) (ptIndex virtAddr)) = none
  | .unmap _ => True

/-- The invariant of a life: the space was never created and nothing has changed, or it accounts
for its pages. -/
def AddressSpace.Sound (k : KernelLayout) (base : Pmm) (a : AddressSpace) : Prop :=
  a.pdPhys = 0 ∧ a.paging.memoryBitmap = base ∨
    a.pdPhys ≠ 0 ∧ a.pdPhys &&& pageMask ≠ 0 ∧ a.pdPhys &&& pageMask ≠ k.pageDirectory ∧
      a.paging.Sound base (frameOf a.pdPhys)

section

variable {k : KernelLayout} {base : Pmm} {a : AddressSpace}

lemma AddressSpace.Sound.noAlias (ha : a.Sound k base) : a.NoAlias := by
  intro u v page hu hv
  rcases ha with ⟨hpd, -⟩ | ⟨hpd, -, -, hs⟩
  · simp [AddressSpace.owned, hpd] at hu
  · rw [AddressSpace.owned, if_neg hpd] at hu hv
    exact hs.accounts.unique hu hv

lemma Paging.sound_empty {base : Pmm} {memory : Nat → Fin 1024 → BitVec 32} {page : Nat}
    (hpage : page < pageCount) (hfree : ¬ base.Used page)
    (hpresent : ∀ i, UserIndex i → memory page i &&& pagePresent = 0)
    (huser : ∀ i, memory page i &&& pageUser = 0) :
    (Paging.mk (pmmSetPage base (page * pageSize)) memory).Sound base page ∧
      ∀ slot, slot ≠ .directory →
        (Paging.mk (pmmSetPage base (page * pageSize)) memory).owned page slot = none := by
  set s := Paging.mk (pmmSetPage base (page * pageSize)) memory
  have htables : ∀ i, s.tableOf page i = none := fun i =>
    if_neg fun ⟨hi, h⟩ => h (hpresent i hi)
  have hslots : ∀ slot, slot ≠ .directory → s.owned page slot = none := by
    intro slot hslot
    cases slot with
    | directory => exact absurd rfl hslot
    | table i => exact htables i
    | page i j => simp [Paging.owned, htables i]
  refine ⟨⟨?_, fun i hi h => absurd (hpresent i hi) h, fun i _ => huser i,
    fun i table htable => ?_⟩, hslots⟩
  · have hempty := Ownership.Accounts.of_empty (S := Slot) base.Used
    refine hempty.take (s := .directory) rfl hfree ?_ (used_pmmSetPage _ hpage)
    funext slot
    by_cases hslot : slot = .directory
    · rw [hslot, update_self]
      rfl
    · rw [update_of_ne hslot, hslots slot hslot]
  · simp [htables i] at htable

lemma AddressSpace.sound_create (b : ReservedPmm k) (memory : Nat → Fin 1024 → BitVec 32)
    (hkernel : ∀ i, UserIndex i → memory (frameOf k.pageDirectory) i &&& pagePresent = 0) :
    (AddressSpace.create k ⟨b.memoryBitmap, memory⟩).Sound k b.memoryBitmap ∧
      ∀ slot, slot ≠ .directory →
        (AddressSpace.create k ⟨b.memoryBitmap, memory⟩).owned slot = none := by
  rcases Paging.allocPage_cases ⟨b.memoryBitmap, memory⟩ with halloc | ⟨page, hpage, hfree, halloc⟩
  · have hcreate : AddressSpace.create k ⟨b.memoryBitmap, memory⟩ =
        ⟨⟨b.memoryBitmap, memory⟩, 0⟩ := by
      simp [AddressSpace.create, createUserPageDirectory, halloc]
    rw [hcreate]
    exact ⟨Or.inl ⟨rfl, rfl⟩, fun slot _ => by simp [AddressSpace.owned]⟩
  obtain ⟨-, hpage0⟩ := low_of_not_used b.low hfree
  have hne := pageAddress_ne_zero hpage hpage0
  set words := kernelMappings (memory (frameOf k.pageDirectory)) with hwords
  have hcreate : AddressSpace.create k ⟨b.memoryBitmap, memory⟩ =
      ⟨⟨pmmSetPage b.memoryBitmap (page * pageSize), update memory page words⟩,
        pageAddress page⟩ := by
    simp only [AddressSpace.create, createUserPageDirectory, halloc, hne, if_false,
      frameOf_pageAddress hpage, Paging.setPage, ← hwords]
  have hpresent : ∀ i, UserIndex i → words i &&& pagePresent = 0 := by
    intro i hi
    rw [hwords, kernelMappings, if_neg (by simp [hkernel i hi])]
    decide
  obtain ⟨hs, hslots⟩ := @Paging.sound_empty _ (update memory page words) page hpage hfree
    (fun i hi => by rw [update_self]; exact hpresent i hi)
    (fun i => by rw [update_self]; exact kernelMappings_user _ i)
  rw [hcreate]
  refine ⟨Or.inr ⟨hne, ?_, ?_, ?_⟩, fun slot hslot => ?_⟩
  · rwa [pageAddress_and_pageMask hpage]
  · rw [pageAddress_and_pageMask hpage]
    intro heq
    have hin := k.directory_in_bss
    refine hfree (b.reserved page ?_)
    have haddr := toNat_pageAddress hpage
    rw [heq] at haddr
    unfold pageSize at *
    omega
  · rwa [frameOf_pageAddress hpage]
  · rw [AddressSpace.owned, if_neg hne, frameOf_pageAddress hpage]
    exact hslots slot hslot

lemma spaceStep_sound (b : ReservedPmm k) (ha : a.Sound k b.memoryBitmap) {o : SpaceOp}
    (ho : MapsUnmapped a o) : (spaceStep a o).1.Sound k b.memoryBitmap := by
  obtain ⟨s, pd⟩ := a
  rcases ha with ⟨rfl, hbits⟩ | ⟨hpd, hmask, hk, hs⟩
  · refine Or.inl ?_
    cases o with
    | map va =>
      refine ⟨rfl, ?_⟩
      change (mapFreshPage s 0 va).memoryBitmap = _
      rcases s.allocPage_cases with halloc | ⟨page, hpage, hfree, halloc⟩
      · simpa [mapFreshPage, halloc] using hbits
      · obtain ⟨hlow, hpage0⟩ := low_of_not_used (fun q hq => hbits.symm ▸ b.low q hq) hfree
        have hback : mapFreshPage s 0 va = s := by
          simp only [mapFreshPage, halloc, pageAddress_ne_zero hpage hpage0, if_false, mapUserPage,
            zero_and_pageMask]
          exact freePage_allocPage hpage hlow hfree
        rw [hback]
        exact hbits
    | unmap va =>
      simpa [spaceStep, unmapUserPage] using hbits
  · right
    cases o with
    | map va =>
      obtain ⟨hlo, hhi, hempty⟩ := ho
      rw [AddressSpace.owned, if_neg hpd] at hempty
      obtain ⟨base', -, hsame, hs'⟩ := mapFreshPage_sound hs b.low hmask rfl hlo hhi
      obtain rfl := hsame hempty
      rw [spaceStep_map]
      dsimp only
      exact ⟨hpd, hmask, hk, hs'⟩
    | unmap va =>
      have hs' : (unmapUserPage s pd va).1.Sound b.memoryBitmap (frameOf pd) :=
        unmapUserPage_sound hs b.low rfl va
      exact ⟨hpd, hmask, hk, hs'⟩

/-- When a directory without user mappings is created, pages are mapped and unmapped, and the
address space is destroyed, the bitmap is what it was; and at no moment is a page used in two
places. -/
theorem addressSpace_conserves (k : KernelLayout) (b : ReservedPmm k)
    (memory : Nat → Fin 1024 → BitVec 32)
    (hkernel : ∀ i, UserIndex i → memory (frameOf k.pageDirectory) i &&& pagePresent = 0)
    (ops : List SpaceOp)
    (hruns : Machine.Runs MapsUnmapped spaceStep
      (AddressSpace.create k ⟨b.memoryBitmap, memory⟩) ops) :
    (destroyUserAddressSpace k
        (Machine.run spaceStep (AddressSpace.create k ⟨b.memoryBitmap, memory⟩) ops).paging
        (Machine.run spaceStep (AddressSpace.create k ⟨b.memoryBitmap, memory⟩) ops).pdPhys
      ).memoryBitmap = b.memoryBitmap ∧
    ∀ pre, pre <+: ops →
      (Machine.run spaceStep (AddressSpace.create k ⟨b.memoryBitmap, memory⟩) pre).NoAlias := by
  have hcreate := (AddressSpace.sound_create b memory hkernel).1
  have hsound : ∀ pre, pre <+: ops → (Machine.run spaceStep
      (AddressSpace.create k ⟨b.memoryBitmap, memory⟩) pre).Sound k b.memoryBitmap := by
    rintro pre ⟨rest, rfl⟩
    refine Machine.run_invariant (I := AddressSpace.Sound k b.memoryBitmap)
      (fun a o ha ho => spaceStep_sound b ha ho) hcreate ?_
    exact ((Machine.runs_append ..).1 hruns).1
  refine ⟨?_, fun pre hpre => (hsound pre hpre).noAlias⟩
  rcases hsound ops (List.prefix_refl ops) with ⟨hpd, hbits⟩ | ⟨-, hmask, hk, hs⟩
  · rw [hpd, destroyUserAddressSpace, if_pos (Or.inl zero_and_pageMask)]
    exact hbits
  · exact memoryBitmap_destroyUserAddressSpace hs b.low hmask hk rfl

end

/-- A kernel whose image ends at 2 MB. -/
def kernelOf2MB : KernelLayout := ⟨0x100000, 0x200000, by decide, by decide, by decide⟩

/-- A space with one page is made and destroyed. -/
theorem addressSpace_conserves_oneMap :
    (destroyUserAddressSpace kernelOf2MB
        (Machine.run spaceStep (AddressSpace.create kernelOf2MB
          ⟨(ReservedPmm.init kernelOf2MB).memoryBitmap, fun _ _ => 0⟩) [.map 0x40000000]).paging
        (Machine.run spaceStep (AddressSpace.create kernelOf2MB
          ⟨(ReservedPmm.init kernelOf2MB).memoryBitmap, fun _ _ => 0⟩) [.map 0x40000000]).pdPhys
      ).memoryBitmap = (ReservedPmm.init kernelOf2MB).memoryBitmap ∧
    ∀ pre, pre <+: [SpaceOp.map 0x40000000] →
      (Machine.run spaceStep (AddressSpace.create kernelOf2MB
        ⟨(ReservedPmm.init kernelOf2MB).memoryBitmap, fun _ _ => 0⟩) pre).NoAlias :=
  addressSpace_conserves kernelOf2MB (ReservedPmm.init kernelOf2MB) (fun _ _ => 0)
    (fun _ _ => by decide) [.map 0x40000000]
    ⟨⟨by decide, by decide, (AddressSpace.sound_create _ _ fun _ _ => by decide).2 _ (by decide)⟩,
      trivial⟩

end NeuroSpark
