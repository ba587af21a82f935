import NeuroSpark.Mem.Frames

/-!
# The address spaces of all tasks

Each task has a directory in `page_dir`: the kernel's, one of its own, or none. The address spaces
of the tasks that have their own are accounted for one by one, and no two of them share a page. What
is done to one of them, or to none, keeps this for all.
-/

namespace NeuroSpark

/-- Physical memory and `os_tasks[i].page_dir`. -/
structure Spaces where
  paging : Paging
  pageDir : Fin 8 → BitVec 32

namespace Spaces

/-- The task has an address space of its own. -/
def HasSpace (k : KernelLayout) (m : Spaces) (task : Fin 8) : Prop :=
  m.pageDir task ≠ 0 ∧ m.pageDir task ≠ k.pageDirectory

instance (k : KernelLayout) (m : Spaces) (task : Fin 8) : Decidable (m.HasSpace k task) :=
  inferInstanceAs (Decidable (_ ∧ _))

/-- What the address space of a task has in each place. -/
def owned (m : Spaces) (task : Fin 8) (slot : Slot) : Option Nat :=
  m.paging.owned (frameOf (m.pageDir task)) slot

/-- The pages of the kernel image. -/
def Reserved (k : KernelLayout) (page : Nat) : Prop := page * pageSize < k.kernelEnd

structure Sound (k : KernelLayout) (m : Spaces) : Prop where
  booted : m.paging.Booted k
  own : ∀ task, m.HasSpace k task → OwnDirectory k (m.pageDir task)
  space : ∀ task, m.HasSpace k task → ∃ b : Pmm, (∀ page, Reserved k page → b.Used page) ∧
    m.paging.Sound b (frameOf (m.pageDir task))
  apart : ∀ task task', m.HasSpace k task → m.HasSpace k task' → task ≠ task' →
    ∀ slot slot' page, m.owned task slot = some page → m.owned task' slot' ≠ some page

end Spaces

/-! ### Steps -/

section

variable {k : KernelLayout} {s s' : Paging} {base : Pmm} {dir : Nat} {m m' : Spaces}

/-- An address space whose pages stay as they are and in use is accounted for as before, with
everything else as its background. -/
lemma Paging.Sound.frame {keep : Nat → Prop} (hs : s.Sound base dir)
    (hkeep : ∀ slot page, s.owned dir slot = some page → keep page) (hsame : s.SameOn keep s')
    (hused : ∀ page, keep page → s'.memoryBitmap.Used page) :
    s'.owned dir = s.owned dir ∧ ∃ base' : Pmm,
      (∀ page, keep page → base.Used page → base'.Used page) ∧ s'.Sound base' dir := by
  have hdir : s'.memory dir = s.memory dir := hsame dir (hkeep .directory dir rfl)
  have htables : ∀ i table, s.tableOf dir i = some table → s'.memory table = s.memory table :=
    fun i table h => hsame table (hkeep (.table i) table h)
  have hown : s'.owned dir = s.owned dir := by
    funext slot
    cases slot with
    | directory => rfl
    | table i => exact Paging.tableOf_congr hdir i
    | page i j =>
      simp only [Paging.owned, Paging.tableOf_congr hdir]
      cases htable : s.tableOf dir i with
      | none => rfl
      | some table => exact Paging.pageOf_congr (htables i table htable) j
  have hownUsed : ∀ {slot page}, s'.owned dir slot = some page → s'.memoryBitmap.Used page := by
    intro slot page h
    rw [hown] at h
    exact hused page (hkeep slot page h)
  have haccounts := Ownership.Accounts.of_own hownUsed
    fun h h' => hs.accounts.unique (hown ▸ h) (hown ▸ h')
  obtain ⟨base', hbase'⟩ := Pmm.exists_used fun page =>
    s'.memoryBitmap.Used page ∧ ∀ slot, s'.owned dir slot ≠ some page
  have hbase : base'.Used = fun page =>
      s'.memoryBitmap.Used page ∧ ∀ slot, s'.owned dir slot ≠ some page := by
    funext page
    rw [hbase' page]
    exact propext ⟨fun h => h.2, fun h => ⟨h.1.lt, h⟩⟩
  refine ⟨hown, base', fun page hpage hbasePage => ?_, hbase ▸ haccounts, fun i hi => ?_,
    fun i hi => ?_, fun i table htable j => ?_⟩
  · rw [hbase]
    refine ⟨hused page hpage, fun slot hslot => ?_⟩
    rw [hown] at hslot
    exact hs.accounts.fresh hslot hbasePage
  · rw [hdir]
    exact hs.userDir i hi
  · rw [hdir]
    exact hs.kernelDir i hi
  · rw [Paging.tableOf_congr hdir] at htable
    rw [htables i table htable]
    exact hs.userTable i table htable j

/-- What happens in one address space, or in none, keeps the invariant when it leaves the pages of
all others as they are. -/
theorem Spaces.Sound.step (h : m.Sound k) (acting : Option (Fin 8)) {keep : Nat → Prop}
    (hreserved : ∀ page, Reserved k page → keep page) (hsame : m.paging.SameOn keep m'.paging)
    (hused : ∀ page, keep page → m'.paging.memoryBitmap.Used page)
    (hdirs : ∀ task, acting ≠ some task → m'.HasSpace k task → m'.pageDir task = m.pageDir task)
    (hkeep : ∀ task, acting ≠ some task → m.HasSpace k task → m'.HasSpace k task →
      ∀ slot page, m.owned task slot = some page → keep page)
    (hacting : ∀ task, acting = some task → m'.HasSpace k task →
      OwnDirectory k (m'.pageDir task) ∧ ∃ b : Pmm, (∀ page, keep page → b.Used page) ∧
        m'.paging.Sound b (frameOf (m'.pageDir task))) : m'.Sound k := by
  have hold : ∀ task, acting ≠ some task → m'.HasSpace k task → m.HasSpace k task := by
    intro task hne htask
    unfold HasSpace at htask ⊢
    rwa [← hdirs task hne htask]
  have hframe : ∀ task, acting ≠ some task → m'.HasSpace k task →
      m'.owned task = m.owned task ∧ ∃ b : Pmm, (∀ page, Reserved k page → b.Used page) ∧
        m'.paging.Sound b (frameOf (m'.pageDir task)) := by
    intro task hne htask
    have hdir := hdirs task hne htask
    obtain ⟨b, hb, hs⟩ := h.space task (hold task hne htask)
    obtain ⟨hown, b', hb', hs'⟩ :=
      hs.frame (hkeep task hne (hold task hne htask) htask) hsame hused
    refine ⟨?_, b', fun page hpage => hb' page (hreserved page hpage) (hb page hpage), ?_⟩
    · funext slot
      rw [owned, hdir, hown, owned]
    · rwa [hdir]
  refine ⟨⟨fun page hpage => hused page (hreserved page hpage), fun i hi => ?_⟩, fun task htask => ?_,
    fun task htask => ?_, fun task task' htask htask' hne slot slot' page hpage hpage' => ?_⟩
  · have hin := k.directory_in_bss
    have hkernel : Reserved k (frameOf k.pageDirectory) := by
      have hmask := toNat_and_pageMask k.pageDirectory
      have hle : (k.pageDirectory &&& pageMask).toNat ≤ k.pageDirectory.toNat := by
        exact Nat.and_le_left
      unfold Reserved
      unfold pageSize at *
      omega
    rw [hsame _ (hreserved _ hkernel)]
    exact h.booted.noUser i hi
  · by_cases hact : acting = some task
    · exact (hacting task hact htask).1
    · rw [hdirs task hact htask]
      exact h.own task (hold task hact htask)
  · by_cases hact : acting = some task
    · obtain ⟨-, b, hb, hs⟩ := hacting task hact htask
      exact ⟨b, fun page hpage => hb page (hreserved page hpage), hs⟩
    · exact (hframe task hact htask).2
  · by_cases hact : acting = some task
    · obtain ⟨-, b, hb, hs⟩ := hacting task hact htask
      have hact' : acting ≠ some task' := fun h' => hne (Option.some.inj (hact.symm.trans h'))
      have hold' := hold task' hact' htask'
      rw [(hframe task' hact' htask').1] at hpage'
      exact hs.accounts.fresh hpage (hb page (hkeep task' hact' hold' htask' slot' page hpage'))
    · rw [(hframe task hact htask).1] at hpage
      have hold₁ := hold task hact htask
      by_cases hact' : acting = some task'
      · obtain ⟨-, b, hb, hs⟩ := hacting task' hact' htask'
        exact hs.accounts.fresh hpage' (hb page (hkeep task hact hold₁ htask slot page hpage))
      · rw [(hframe task' hact' htask').1] at hpage'
        exact h.apart task task' hold₁ (hold task' hact' htask') hne slot slot' page hpage hpage'

end

/-! ### Operations -/

namespace Spaces

variable {k : KernelLayout} {m : Spaces} {task : Fin 8}

def setPaging (m : Spaces) (s : Paging) : Spaces := { m with paging := s }

/-- `create_task`, as far as memory goes: without a stack the task is not created. -/
def createTask (m : Spaces) (task : Fin 8) (entry pageDir : BitVec 32) : Spaces × Bool :=
  let r := createTaskStack m.paging entry
  if r.2 then (⟨r.1, Function.update m.pageDir task pageDir⟩, true) else (m.setPaging r.1, false)

/-- The end of `task_exit_with_code` and of `task_kill`. -/
def destroySpace (k : KernelLayout) (m : Spaces) (task : Fin 8) : Spaces :=
  if m.HasSpace k task then
    ⟨destroyUserAddressSpace k m.paging (m.pageDir task), Function.update m.pageDir task 0⟩
  else m

/-- A page may be freed from outside: it is one of the managed pages, not one of the kernel image,
and in no address space. -/
def MayFree (k : KernelLayout) (m : Spaces) (pageAddr : Nat) : Prop :=
  pageAddr < pageCount * pageSize ∧ ¬ Reserved k (pageAddr / pageSize) ∧
    ∀ task, m.HasSpace k task → ∀ slot, m.owned task slot ≠ some (pageAddr / pageSize)

section

variable (h : m.Sound k)
include h

lemma Sound.used_of_owned (htask : m.HasSpace k task) {slot : Slot} {page : Nat}
    (hpage : m.owned task slot = some page) : m.paging.memoryBitmap.Used page := by
  obtain ⟨b, hb, hsound⟩ := h.space task htask
  exact hsound.accounts.used_of_own hpage

lemma Sound.of_keeps (htask : m.HasSpace k task) {s : Paging}
    (hs : ∀ base : Pmm, (∀ page < 256, base.Used page) →
      m.paging.Sound base (frameOf (m.pageDir task)) →
      m.paging.Keeps base (frameOf (m.pageDir task)) s) : (m.setPaging s).Sound k := by
  obtain ⟨b, hb, hsound⟩ := h.space task htask
  obtain ⟨base', hbase, hs', hsame⟩ := hs b (ReservedPmm.low ⟨b, hb⟩) hsound
  refine h.step (some task) hb hsame (fun page hpage => hs'.used_of_base (hbase page hpage))
    (fun _ _ _ => rfl) (fun task' hne htask' _ slot page hpage => ?_) ?_
  · have hne' : task' ≠ task := fun heq => hne (congrArg some heq.symm)
    rcases (hsound.accounts.used_iff page).1 (h.used_of_owned htask' hpage) with
      hbase' | ⟨slot', hslot'⟩
    · exact hbase'
    · exact absurd hslot' (h.apart task' task htask' htask hne' slot slot' page hpage)
  · rintro task' ⟨⟩ htask'
    exact ⟨h.own task htask, base', hbase, hs'⟩

lemma Sound.of_sameOn {s : Paging} (hsame : m.paging.SameOn m.paging.memoryBitmap.Used s)
    (hused : ∀ page, m.paging.memoryBitmap.Used page → s.memoryBitmap.Used page) :
    (m.setPaging s).Sound k := by
  refine h.step none h.booted.reserved hsame hused (fun _ _ _ => rfl) ?_ ?_
  · exact fun task' _ htask' _ slot page hpage => h.used_of_owned htask' hpage
  · rintro task' ⟨⟩

lemma Sound.of_builds_zero {r : Paging × BitVec 32} (hr : m.paging.Builds k r)
    (hzero : r.2 = 0) : (m.setPaging r.1).Sound k := by
  rcases hr with ⟨-, hused, hsame⟩ | ⟨hpd, -⟩
  · exact h.of_sameOn hsame hused
  · exact absurd hzero hpd.ne_zero

/-- An address space is built and given to a task. -/
lemma Sound.createTask_builds {r : Paging × BitVec 32} (hr : m.paging.Builds k r) (hpd : r.2 ≠ 0)
    (hfits : StackFits r.1) (task : Fin 8) (entry : BitVec 32) :
    ((m.setPaging r.1).createTask task entry r.2).1.Sound k := by
  obtain ⟨hown, base', hbase, hs', hsame⟩ := hr.resolve_left fun hzero => hpd hzero.1
  have hstackSame := createTaskStack_sameOn entry hfits
  have hstackUsed : ∀ page, r.1.memoryBitmap.Used page →
      (createTaskStack r.1 entry).1.memoryBitmap.Used page :=
    fun page => createTaskStack_used entry
  change Sound k (if (createTaskStack r.1 entry).2 then
    ((⟨(createTaskStack r.1 entry).1, Function.update m.pageDir task r.2⟩ : Spaces), true)
    else (m.setPaging (createTaskStack r.1 entry).1, false)).1
  generalize createTaskStack r.1 entry = c at hstackSame hstackUsed ⊢
  have hsame' : m.paging.SameOn m.paging.memoryBitmap.Used c.1 :=
    hsame.trans (hstackSame.mono fun page hpage => hs'.used_of_base (hbase page hpage))
  have hused : ∀ page, m.paging.memoryBitmap.Used page → c.1.memoryBitmap.Used page :=
    fun page hpage => hstackUsed page (hs'.used_of_base (hbase page hpage))
  -- the stack is taken next to the new address space
  have hown' : ∀ slot page, r.1.owned (frameOf r.2) slot = some page → r.1.memoryBitmap.Used page :=
    fun slot page hpage => hs'.accounts.used_of_own hpage
  obtain ⟨-, base'', hbase', hs''⟩ := hs'.frame hown' hstackSame hstackUsed
  have hothers : ∀ task', m.HasSpace k task' → ∀ slot page, m.owned task' slot = some page →
      m.paging.memoryBitmap.Used page := fun task' htask' slot page => h.used_of_owned htask'
  split_ifs with hstack
  · refine h.step (some task) h.booted.reserved hsame' hused (fun task' hne _ => ?_)
      (fun task' _ htask' _ => hothers task' htask') ?_
    · have hne' : task' ≠ task := fun heq => hne (congrArg some heq.symm)
      exact Function.update_of_ne hne' ..
    · rintro task' ⟨⟩ -
      dsimp only
      rw [Function.update_self]
      refine ⟨hown, base'', fun page hpage => ?_, hs''⟩
      exact hbase' page (hs'.used_of_base (hbase page hpage)) (hbase page hpage)
  · refine h.step none h.booted.reserved hsame' hused (fun _ _ _ => rfl)
      (fun task' _ htask' _ => hothers task' htask') ?_
    rintro task' ⟨⟩

lemma Sound.destroySpace_frees (htask : m.HasSpace k task) {slot : Slot} {page : Nat}
    (hpage : m.owned task slot = some page) :
    ¬ (m.destroySpace k task).paging.memoryBitmap.Used page := by
  obtain ⟨b, hb, hsound⟩ := h.space task htask
  have hlow := ReservedPmm.low ⟨b, hb⟩
  obtain ⟨hbits, -⟩ := destroyUserAddressSpace_leaves hsound hlow (h.own task htask)
  rw [destroySpace, if_pos htask]
  rw [hbits]
  exact hsound.not_base _ hpage

lemma Sound.destroySpace (task : Fin 8) : (m.destroySpace k task).Sound k := by
  unfold Spaces.destroySpace
  split_ifs with htask
  · obtain ⟨b, hb, hsound⟩ := h.space task htask
    have hlow := ReservedPmm.low ⟨b, hb⟩
    obtain ⟨hbits, hsame⟩ := destroyUserAddressSpace_leaves hsound hlow (h.own task htask)
    refine h.step none hb hsame (fun page hpage => ?_) (fun task' _ htask' => ?_)
      (fun task' _ htask₀ htask' slot page hpage => ?_) ?_
    · rwa [hbits]
    · have hne : task' ≠ task := by
        rintro rfl
        simp [HasSpace] at htask'
      exact Function.update_of_ne hne ..
    · have hne : task' ≠ task := by
        rintro rfl
        simp [HasSpace] at htask'
      rcases (hsound.accounts.used_iff page).1 (h.used_of_owned htask₀ hpage) with
        hbase | ⟨slot', hslot'⟩
      · exact hbase
      · exact absurd hslot' (h.apart task' task htask₀ htask hne slot slot' page hpage)
    · rintro task' ⟨⟩
  · exact h

lemma Sound.freePage {pageAddr : Nat} (hfree : m.MayFree k pageAddr) : (m.setPaging { m.paging with
      memoryBitmap := pmmFreePage m.paging.memoryBitmap pageAddr }).Sound k := by
  obtain ⟨hlt, hres, hown⟩ := hfree
  set page := pageAddr / pageSize with hpage
  have hpageLt : page < pageCount := Nat.div_lt_of_lt_mul (by rwa [Nat.mul_comm])
  have hbits : pmmFreePage m.paging.memoryBitmap pageAddr =
      pmmFreePage m.paging.memoryBitmap (page * pageSize) := by
    have hdiv : page * pageSize / pageSize = page := Nat.mul_div_cancel _ (by decide)
    have hlow : page * pageSize < 0x100000 ↔ pageAddr < 0x100000 := by
      unfold pageSize at *
      omega
    simp only [pmmFreePage, hdiv, hlow, ← hpage]
  have hhigh : 0x100000 ≤ page * pageSize := by
    have hin := k.directory_in_bss
    unfold Reserved at hres
    omega
  have hreserved : ∀ q, Reserved k q → q ≠ page ∧ m.paging.memoryBitmap.Used q :=
    fun q hq => ⟨fun heq => hres (heq ▸ hq), h.booted.reserved q hq⟩
  refine h.step none hreserved
    (Paging.SameOn.of_memory rfl) (fun q hq => ?_) (fun _ _ _ => rfl)
    (fun task' _ htask' _ slot q hq => ⟨fun heq => ?_, h.used_of_owned htask' hq⟩) ?_
  · rw [hbits]
    exact (used_pmmFreePage _ hhigh hpageLt q).2 hq
  · exact hown task' htask' slot (heq ▸ hq)
  · rintro task' ⟨⟩

lemma Sound.allocPage : (m.setPaging m.paging.allocPage.1).Sound k :=
  h.of_sameOn (Paging.SameOn.of_memory m.paging.memory_allocPage) fun _ => used_allocPage

end

end Spaces

end NeuroSpark
