import NeuroSpark.Mem.Mappings

/-!
# The heap of a task

`SYS_BRK` and `SYS_SBRK` move the break of a task, byte by byte, and map or unmap whole pages for
it. A break that moves down takes with it the page that it comes to lie in, unless it comes to lie
at the start of one.
-/

namespace NeuroSpark

inductive BreakCall where
  | brk (requested : BitVec 32)
  | sbrk (increment : BitVec 32)

/-- What both calls do once the request has passed their checks. -/
def moveBreak (m : TaskMemory) (requested : BitVec 32) : TaskMemory × Bool :=
  let current := m.taskBrkCurrent
  let r :=
    if current < requested then
      mapUserPagesForRange m.paging m.pageDir current (requested - current)
    else if requested < current then
      unmapUserPagesForRange m.paging m.pageDir requested (current - requested)
    else (m.paging, true)
  if r.2 then ({ m with paging := r.1, taskBrkCurrent := requested }, true)
  else ({ m with paging := r.1 }, false)

def sysBrk (m : TaskMemory) (requested : BitVec 32) : TaskMemory × BitVec 32 :=
  let m := ensureTaskIdentityDefaults m
  let current := m.taskBrkCurrent
  if requested = 0 then (m, current)
  else if requested < m.taskBrkBase ∨ brkDefaultLimit < requested then (m, current)
  else
    let r := moveBreak m requested
    (r.1, if r.2 then requested else current)

def sysSbrk (m : TaskMemory) (increment : BitVec 32) : TaskMemory × BitVec 32 :=
  let m := ensureTaskIdentityDefaults m
  let current := m.taskBrkCurrent
  let target := current + increment
  if (0 < increment.toInt ∧ target < current) ∨ (increment.toInt < 0 ∧ current < target) then
    (m, errBadPointer)
  else if target < m.taskBrkBase ∨ brkDefaultLimit < target then (m, errBadPointer)
  else
    let r := moveBreak m target
    (r.1, if r.2 then current else errBadPointer)

def breakStep (m : TaskMemory) : BreakCall → TaskMemory × BitVec 32
  | .brk requested => sysBrk m requested
  | .sbrk increment => sysSbrk m increment

/-- The break is in its bounds, and every byte below it is on a user page. -/
structure HeapMapped (m : TaskMemory) : Prop where
  base_le : m.taskBrkBase.toNat ≤ m.taskBrkCurrent.toNat
  le_limit : m.taskBrkCurrent.toNat ≤ brkDefaultLimit.toNat
  mapped : ∀ a, m.taskBrkBase.toNat ≤ a → a < m.taskBrkCurrent.toNat →
    (m.userPte (a / pageSize)).isSome = true

/-- A call leaves the heap mapped, and the bytes below the old break and the new one as they were.
-/
structure HeapKept (m : TaskMemory) (c : BreakCall) : Prop where
  heap : HeapMapped (breakStep m c).1
  bytes : ∀ a, (breakStep m c).1.taskBrkBase.toNat ≤ a →
    a < min (ensureTaskIdentityDefaults m).taskBrkCurrent.toNat
      (breakStep m c).1.taskBrkCurrent.toNat →
    ∃ e e', m.userPte (a / pageSize) = some e ∧
      (breakStep m c).1.userPte (a / pageSize) = some e' ∧ frameOf e' = frameOf e ∧
      (breakStep m c).1.paging.memory (frameOf e) = m.paging.memory (frameOf e)

/-- Where a call moves the break to, if it passes the checks. -/
def breakRequest (m : TaskMemory) : BreakCall → Option (BitVec 32)
  | .brk requested =>
      if requested = 0 ∨ requested < m.taskBrkBase ∨ brkDefaultLimit < requested then none
      else some requested
  | .sbrk increment =>
      let target := m.taskBrkCurrent + increment
      if ((0 < increment.toInt ∧ target < m.taskBrkCurrent) ∨
          (increment.toInt < 0 ∧ m.taskBrkCurrent < target)) ∨
        target < m.taskBrkBase ∨ brkDefaultLimit < target then none
      else some target

/-- A break that moves down moves to the start of a page. -/
def ShrinksToPage (m : TaskMemory) (c : BreakCall) : Prop :=
  ∀ r, breakRequest (ensureTaskIdentityDefaults m) c = some r →
    r < (ensureTaskIdentityDefaults m).taskBrkCurrent → r.toNat % pageSize = 0

/-- The task has no break yet, or a heap that is mapped. -/
def HeapReady (m : TaskMemory) : Prop :=
  m.taskBrkBase = 0 ∨ m.taskBrkBase = brkDefaultBaseAddr ∧ HeapMapped m

section

variable {background : Pmm} {m : TaskMemory} {r : BitVec 32}

lemma breakStep_state (m : TaskMemory) (c : BreakCall) :
    (breakStep m c).1 =
      match breakRequest (ensureTaskIdentityDefaults m) c with
      | none => ensureTaskIdentityDefaults m
      | some r => (moveBreak (ensureTaskIdentityDefaults m) r).1 := by
  cases c with
  | brk requested =>
    simp only [breakStep, sysBrk, breakRequest]
    by_cases hzero : requested = 0
    · simp [hzero]
    · simp only [hzero, if_false, false_or]
      split_ifs <;> rfl
  | sbrk increment =>
    simp only [breakStep, sysSbrk, breakRequest]
    split_ifs with h h' h'' <;> first | rfl | grind

lemma breakRequest_le {c : BreakCall} (h : breakRequest m c = some r) :
    m.taskBrkBase.toNat ≤ r.toNat ∧ r.toNat ≤ brkDefaultLimit.toNat := by
  cases c with
  | brk requested =>
    simp only [breakRequest] at h
    split_ifs at h with hcheck
    rw [Option.some.injEq] at h
    subst h
    simp only [not_or, BitVec.lt_def, not_lt] at hcheck
    exact hcheck.2
  | sbrk increment =>
    simp only [breakRequest] at h
    split_ifs at h with hcheck
    rw [Option.some.injEq] at h
    subst h
    rw [not_or] at hcheck
    simpa only [not_or, BitVec.lt_def, not_lt] using hcheck.2

lemma inRange_sub {low high : BitVec 32} (h : low < high) (n : Nat) :
    InRange low (high - low) n ↔
      low.toNat / pageSize ≤ n ∧ n * pageSize < high.toNat := by
  have h : low.toNat < high.toNat := h
  have hne : high - low ≠ 0 := by
    intro hzero
    have hnat := congrArg BitVec.toNat hzero
    change (_ % 4294967296) = 0 at hnat
    omega
  have hlast : (low + (high - low) - 1).toNat = high.toNat - 1 := by
    have hback : low + (high - low) = high := by
      rw [BitVec.add_comm]
      exact BitVec.sub_add_cancel high low
    rw [hback, BitVec.toNat_sub]
    change (4294967295 + _) % _ = _
    omega
  unfold InRange pageNo
  unfold pageSize
  constructor
  · omega
  · rintro ⟨h₁, h₂⟩
    exact ⟨hne, h₁, by omega⟩

lemma userPage_of_heap {n : Nat} (hlow : brkDefaultBaseAddr.toNat / pageSize ≤ n)
    (hhigh : n * pageSize < brkDefaultLimit.toNat) : UserPage n := by
  change 0x48000 ≤ n at hlow
  change n * 4096 < 0x4F000000 at hhigh
  unfold UserPage
  omega

/-- The byte at `a` is where it was, as it was. -/
def SameByte (m m' : TaskMemory) (a : Nat) : Prop :=
  ∃ e e', m.userPte (a / pageSize) = some e ∧ m'.userPte (a / pageSize) = some e' ∧
    frameOf e' = frameOf e ∧ m'.paging.memory (frameOf e) = m.paging.memory (frameOf e)

lemma SameByte.mapped {m' : TaskMemory} {a : Nat} (h : SameByte m m' a) :
    (m'.userPte (a / pageSize)).isSome = true := by
  obtain ⟨-, e', -, he', -⟩ := h
  rw [he']
  rfl

lemma page_lt_of_lt_brk {a : Nat} (ha : a < m.taskBrkCurrent.toNat) : a / pageSize < 1048576 := by
  unfold pageSize
  omega

lemma HeapMapped.sameByte (h : HeapMapped m) {m' : TaskMemory} {touched lost : Nat → Prop}
    (hchanges : m.Changes background touched lost m') {a : Nat} (hbase : m.taskBrkBase.toNat ≤ a)
    (ha : a < m.taskBrkCurrent.toNat) (hlost : ¬ lost (a / pageSize)) : SameByte m m' a := by
  obtain ⟨e, he⟩ := Option.isSome_iff_exists.1 (h.mapped a hbase ha)
  obtain ⟨e', he', hframe, hmem⟩ := hchanges.paging.kept _ (page_lt_of_lt_brk ha) hlost e he
  refine ⟨e, e', he, ?_, hframe, hmem⟩
  rw [TaskMemory.userPte, hchanges.pageDir]
  exact he'

/-- A call that keeps the heap, and what the task has below the two breaks. -/
def BreakKept (background : Pmm) (m m' : TaskMemory) : Prop :=
  m'.Sound background ∧ m'.taskBrkBase = m.taskBrkBase ∧ HeapMapped m' ∧
    ∀ a, m.taskBrkBase.toNat ≤ a → a < min m.taskBrkCurrent.toNat m'.taskBrkCurrent.toNat →
      SameByte m m' a

lemma HeapMapped.refl (h : HeapMapped m) (hm : m.Sound background) : BreakKept background m m :=
  have hsame : m.Changes background (fun _ => False) (fun _ => False) m := hm.refl
  ⟨hm, rfl, h, fun _ hbase ha =>
    h.sameByte hsame hbase (lt_of_lt_of_le ha (min_le_left _ _)) id⟩

section

variable (hm : m.Sound background)
include hm

section

variable (hbase : m.taskBrkBase = brkDefaultBaseAddr) (hheap : HeapMapped m)
include hbase hheap

lemma moveBreak_grow (hr : r.toNat ≤ brkDefaultLimit.toNat)
    (hgrow : m.taskBrkCurrent < r) : BreakKept background m (moveBreak m r).1 := by
  have hgrow' : m.taskBrkCurrent.toNat < r.toNat := hgrow
  have hrange := inRange_sub hgrow
  have hle := hheap.base_le
  have hle' : brkDefaultBaseAddr.toNat ≤ m.taskBrkCurrent.toNat := hbase ▸ hle
  have hspec := mapUserPagesForRange_spec m.taskBrkCurrent (r - m.taskBrkCurrent)
    hm.space hm.low hm.dir rfl fun n hn => by
      rw [hrange] at hn
      exact userPage_of_heap ((Nat.div_le_div_right hle').trans hn.1) (lt_of_lt_of_le hn.2 hr)
  rw [moveBreak]
  set w := mapUserPagesForRange m.paging m.pageDir m.taskBrkCurrent (r - m.taskBrkCurrent)
  split_ifs with hok
  · have hchanges : m.Changes background _ _ { m with paging := w.1, taskBrkCurrent := r } :=
      ⟨rfl, hspec.1⟩
    refine ⟨hchanges.sound hm, rfl, ⟨by dsimp only; omega, hr, fun a ha ha' => ?_⟩, fun a ha ha' => ?_⟩
    · by_cases hold : a < m.taskBrkCurrent.toNat
      · exact (hheap.sameByte hchanges ha hold id).mapped
      · refine hspec.2 hok _ ((hrange _).2 ⟨Nat.div_le_div_right (not_lt.1 hold), ?_⟩)
        exact lt_of_le_of_lt (Nat.div_mul_le_self a pageSize) ha'
    · exact hheap.sameByte hchanges ha (lt_of_lt_of_le ha' (min_le_left _ _)) id
  · have hchanges : m.Changes background _ _ { m with paging := w.1 } := ⟨rfl, hspec.1⟩
    refine ⟨hchanges.sound hm, rfl, ⟨hheap.base_le, hheap.le_limit, fun a ha ha' => ?_⟩,
      fun a ha ha' => ?_⟩
    · exact (hheap.sameByte hchanges ha ha' id).mapped
    · exact hheap.sameByte hchanges ha (lt_of_lt_of_le ha' (min_le_left _ _)) id

omit hbase hheap in
lemma moveBreak_shrink (hheap : HeapMapped m) (hr : m.taskBrkBase.toNat ≤ r.toNat)
    (hshrink : r < m.taskBrkCurrent) :
    (moveBreak m r).1.taskBrkCurrent = r ∧ (moveBreak m r).1.taskBrkBase = m.taskBrkBase ∧
      m.Changes background (InRange r (m.taskBrkCurrent - r)) (InRange r (m.taskBrkCurrent - r))
        (moveBreak m r).1 ∧
      ∀ n, InRange r (m.taskBrkCurrent - r) n → (moveBreak m r).1.userPte n = none := by
  have hshrink' : r.toNat < m.taskBrkCurrent.toNat := hshrink
  have hrange := inRange_sub hshrink
  have hspec := unmapUserPagesForRange_spec r (m.taskBrkCurrent - r)
    hm.space hm.low hm.dir rfl
  rw [moveBreak]
  simp only [if_neg (show ¬ m.taskBrkCurrent < r from not_lt.2 hshrink'.le), if_pos hshrink]
  set w := unmapUserPagesForRange m.paging m.pageDir r (m.taskBrkCurrent - r)
  have hok : w.2 = true := by
    by_contra hfail
    obtain ⟨n, hn, hnone⟩ := hspec.2.2 (by simpa using hfail)
    rw [hrange] at hn
    have hmapped := hheap.mapped (max r.toNat (n * pageSize)) (hr.trans (le_max_left _ _))
      (max_lt hshrink' hn.2)
    have hdiv : max r.toNat (n * pageSize) / pageSize = n := by
      unfold pageSize at *
      omega
    rw [hdiv, TaskMemory.userPte, hnone] at hmapped
    cases hmapped
  rw [if_pos hok]
  exact ⟨rfl, rfl, ⟨rfl, hspec.1⟩, hspec.2.1 hok⟩

lemma moveBreak_kept (hr : m.taskBrkBase.toNat ≤ r.toNat) (hr' : r.toNat ≤ brkDefaultLimit.toNat)
    (haligned : r < m.taskBrkCurrent → r.toNat % pageSize = 0) :
    BreakKept background m (moveBreak m r).1 := by
  by_cases hgrow : m.taskBrkCurrent < r
  · exact moveBreak_grow hm hbase hheap hr' hgrow
  by_cases hshrink : r < m.taskBrkCurrent
  · obtain ⟨hcurrent, hbase', hchanges, -⟩ := moveBreak_shrink hm hheap hr hshrink
    have hrange := inRange_sub hshrink
    have hshrink' : r.toNat < m.taskBrkCurrent.toNat := hshrink
    have hpage := haligned hshrink
    -- bytes below the new break are on the pages before it
    have hsame : ∀ a, m.taskBrkBase.toNat ≤ a → a < r.toNat → SameByte m (moveBreak m r).1 a := by
      intro a ha ha'
      refine hheap.sameByte hchanges ha (ha'.trans hshrink') fun hin => ?_
      have hle := ((hrange _).1 hin).1
      unfold pageSize at *
      omega
    refine ⟨hchanges.sound hm, hbase', ⟨?_, ?_, fun a ha ha' => ?_⟩, fun a ha ha' => hsame a ha ?_⟩
    · rw [hbase', hcurrent]
      exact hr
    · rw [hcurrent]
      exact hr'
    · rw [hbase'] at ha
      rw [hcurrent] at ha'
      exact (hsame a ha ha').mapped
    · rw [hcurrent] at ha'
      exact lt_of_lt_of_le ha' (min_le_right _ _)
  · have heq : r = m.taskBrkCurrent := by
      apply BitVec.eq_of_toNat_eq
      rw [BitVec.lt_def] at hgrow hshrink
      omega
    have hstay : (moveBreak m r).1 = m := by
      rw [moveBreak, if_neg hgrow, if_neg hshrink, if_pos rfl, heq]
    rw [hstay]
    exact hheap.refl hm

lemma not_heapMapped_moveBreak (hr : m.taskBrkBase.toNat ≤ r.toNat) (hshrink : r < m.taskBrkCurrent)
    (hpage : r.toNat % pageSize ≠ 0) :
    ¬ HeapMapped (moveBreak m r).1 := by
  obtain ⟨hcurrent, hbase', -, hnone⟩ := moveBreak_shrink hm hheap hr hshrink
  intro hmapped
  have haligned : m.taskBrkBase.toNat % pageSize = 0 := by
    rw [hbase]
    decide
  obtain ⟨hle, hlt, hdiv⟩ : m.taskBrkBase.toNat ≤ r.toNat - 1 ∧ r.toNat - 1 < r.toNat ∧
      (r.toNat - 1) / pageSize = r.toNat / pageSize := by
    unfold pageSize at *
    omega
  have hsome := hmapped.mapped (r.toNat - 1) (by rwa [hbase']) (by rwa [hcurrent])
  rw [hdiv, hnone _ ((inRange_sub hshrink _).2 ⟨le_rfl, ?_⟩)] at hsome
  · cases hsome
  · have hshrink' : r.toNat < m.taskBrkCurrent.toNat := hshrink
    exact lt_of_le_of_lt (Nat.div_mul_le_self _ _) hshrink'

end

omit hm in
lemma HeapReady.ensure (h : HeapReady m) :
    (ensureTaskIdentityDefaults m).taskBrkBase = brkDefaultBaseAddr ∧
      HeapMapped (ensureTaskIdentityDefaults m) := by
  unfold ensureTaskIdentityDefaults
  split_ifs with hzero
  · have hle : brkDefaultBaseAddr.toNat ≤ brkDefaultLimit.toNat := by decide
    exact ⟨rfl, le_rfl, hle, fun a ha ha' => absurd ha (not_le.2 ha')⟩
  · exact h.resolve_left hzero

lemma ensure_sound : (ensureTaskIdentityDefaults m).Sound background := by
  unfold ensureTaskIdentityDefaults
  split_ifs
  · exact ⟨hm.low, hm.dir, hm.space⟩
  · exact hm

lemma breakStep_spec (hready : HeapReady m) (c : BreakCall) : (HeapKept m c ↔ ShrinksToPage m c) ∧
      (ShrinksToPage m c → (breakStep m c).1.Sound background ∧ HeapReady (breakStep m c).1) := by
  obtain ⟨hbase, hheap⟩ := hready.ensure
  have hsound := ensure_sound hm
  obtain ⟨hpaging, hdir⟩ := ensureTaskIdentityDefaults_paging m
  have hpte : (ensureTaskIdentityDefaults m).userPte = m.userPte := by
    funext n
    rw [TaskMemory.userPte, hpaging, hdir, TaskMemory.userPte]
  have hkept : ShrinksToPage m c →
      BreakKept background (ensureTaskIdentityDefaults m) (breakStep m c).1 := by
    intro hpage
    rw [breakStep_state]
    cases hrequest : breakRequest (ensureTaskIdentityDefaults m) c with
    | none => exact hheap.refl hsound
    | some r =>
      obtain ⟨hr, hr'⟩ := breakRequest_le hrequest
      exact moveBreak_kept hsound hbase hheap hr hr' (hpage r hrequest)
  refine ⟨⟨fun h => ?_, fun h => ?_⟩, fun h => ?_⟩
  · intro r hrequest hshrink
    by_contra hpage
    refine not_heapMapped_moveBreak hsound hbase hheap (breakRequest_le hrequest).1 hshrink hpage ?_
    have hstate : (breakStep m c).1 = (moveBreak (ensureTaskIdentityDefaults m) r).1 := by
      rw [breakStep_state, hrequest]
    rw [← hstate]
    exact h.heap
  · obtain ⟨-, hbase', hmapped, hbytes⟩ := hkept h
    refine ⟨hmapped, fun a ha ha' => ?_⟩
    rw [hbase'] at ha
    have hsame := hbytes a ha ha'
    rwa [SameByte, hpte, hpaging] at hsame
  · obtain ⟨hsound', hbase', hmapped, -⟩ := hkept h
    exact ⟨hsound', Or.inr ⟨hbase'.trans hbase, hmapped⟩⟩

end

/-- In a run the heap is kept by every call if and only if no call moves the break down into a page.
-/
theorem heap_kept_iff (hm : m.Sound background) (hready : HeapReady m) (calls : List BreakCall) :
    Machine.Runs HeapKept breakStep m calls ↔ Machine.Runs ShrinksToPage breakStep m calls :=
  Machine.runs_congr (I := fun m => m.Sound background ∧ HeapReady m)
    (fun _ c hm => (breakStep_spec hm.1 hm.2 c).2) (fun _ c hm => (breakStep_spec hm.1 hm.2 c).1)
    ⟨hm, hready⟩ calls

end

/-- The break moves down to the middle of the only page of the heap. -/
theorem heap_not_kept :
    freshTask.Sound below2MB ∧ HeapReady freshTask ∧
      ¬ Machine.Runs HeapKept breakStep freshTask [.brk 0x48001000, .brk 0x48000800] := by
  refine ⟨freshTask_sound, Or.inl rfl, ?_⟩
  rintro ⟨-, hkept, -⟩
  have hsome := hkept.heap.mapped 0x48000000 (by decide +kernel) (by decide +kernel)
  have hnone : ((breakStep (breakStep freshTask (.brk 0x48001000)).1 (.brk 0x48000800)).1.userPte
      (0x48000000 / pageSize)).isSome = false := by
    decide +kernel
  rw [hnone] at hsome
  cases hsome

/-- The heap of a new task grows by a page and a half. -/
theorem heap_kept_iff_fresh :
    freshTask.Sound below2MB ∧ HeapReady freshTask ∧
      (Machine.Runs HeapKept breakStep freshTask [.sbrk 0x1800] ↔
        Machine.Runs ShrinksToPage breakStep freshTask [.sbrk 0x1800]) :=
  ⟨freshTask_sound, Or.inl rfl, heap_kept_iff freshTask_sound (Or.inl rfl) [.sbrk 0x1800]⟩

end NeuroSpark
