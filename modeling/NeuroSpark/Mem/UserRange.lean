import Mathlib.Data.Fin.Basic
import NeuroSpark.Lib.Loops
import NeuroSpark.Mem.Paging

/-!
# The check of user pointers

An address space maps page numbers to entries (`Paging.userPte`). Every pointer that a system call
gets from user mode is checked against it by `is_user_range_accessible`. The loop of this function
stops at the first page that begins at or after the last byte of the range, which is one page too
many unless that byte is the first of its page.
-/

namespace NeuroSpark

def pageNo (virtAddr : BitVec 32) : Nat := virtAddr.toNat / pageSize

lemma pageNo_lt (virtAddr : BitVec 32) : pageNo virtAddr < 1048576 := by
  unfold pageNo pageSize
  omega

lemma frameOf_eq_pageNo (e : BitVec 32) : frameOf e = pageNo e := by
  have hlt := pageNo_lt e
  have hmask : (e &&& pageMask).toNat = pageNo e % 1048576 * pageSize := by
    exact and_pageMask e.toNat
  rw [frameOf, hmask, Nat.mul_div_cancel _ (by decide), Nat.mod_eq_of_lt hlt]

lemma toNat_pageAddress_of_lt {n : Nat} (h : n < 1048576) :
    (pageAddress n).toNat = n * pageSize := by
  rw [pageAddress, BitVec.toNat_ofNat, Nat.mod_eq_of_lt]
  unfold pageSize
  omega

lemma pageNo_pageAddress {n : Nat} (h : n < 1048576) : pageNo (pageAddress n) = n := by
  rw [pageNo, toNat_pageAddress_of_lt h, Nat.mul_div_cancel _ (by decide)]

lemma and_pageMask_eq (virtAddr : BitVec 32) :
    virtAddr &&& pageMask = pageAddress (pageNo virtAddr) := by
  apply BitVec.eq_of_toNat_eq
  rw [toNat_and_pageMask, frameOf_eq_pageNo, toNat_pageAddress_of_lt (pageNo_lt _)]

lemma pageAddress_succ {n : Nat} : pageAddress n + 4096 = pageAddress (n + 1) := by
  apply BitVec.eq_of_toNat_eq
  simp only [pageAddress, pageSize, BitVec.toNat_add, BitVec.toNat_ofNat]
  change (_ + 4096) % _ = _
  omega

lemma pdIndex_eq (virtAddr : BitVec 32) :
    pdIndex virtAddr = Fin.ofNat 1024 (pageNo virtAddr / 1024) := by
  have h : (virtAddr >>> 22).toNat = pageNo virtAddr / 1024 := by
    rw [BitVec.toNat_ushiftRight, Nat.shiftRight_eq_div_pow, pageNo, pageSize, Nat.div_div_eq_div_mul]
  rw [pdIndex, h]

lemma ptIndex_eq (virtAddr : BitVec 32) : ptIndex virtAddr = Fin.ofNat 1024 (pageNo virtAddr) := by
  have h : (virtAddr >>> 12 &&& 0x3FF).toNat = pageNo virtAddr % 1024 := by
    rw [BitVec.toNat_and, BitVec.toNat_ushiftRight, Nat.shiftRight_eq_div_pow]
    exact Nat.and_two_pow_sub_one_eq_mod (virtAddr.toNat / 4096) 10
  rw [ptIndex, h]
  exact Fin.ext (Nat.mod_mod _ _)

/-- The entry for page `n` in the address space of a directory, if the page is present and may be
used in user mode. -/
def Paging.userPte (s : Paging) (dir n : Nat) : Option (BitVec 32) :=
  let pde := s.memory dir (Fin.ofNat 1024 (n / 1024))
  if pde &&& pagePresent = 0 ∨ pde &&& pageUser = 0 then none
  else
    let pte := s.memory (frameOf pde) (Fin.ofNat 1024 n)
    if pte &&& pagePresent = 0 ∨ pte &&& pageUser = 0 then none else some pte

/-- The page is there; with a null pointer for a directory there is none. -/
def Paging.PageAccessible (s : Paging) (pdPhys : BitVec 32) (n : Nat) : Prop :=
  pdPhys &&& pageMask ≠ 0 ∧ (s.userPte (frameOf pdPhys) n).isSome = true

def pageIsUserAccessible (s : Paging) (pd virtAddr : BitVec 32) : Bool :=
  if pd = 0 then false
  else
    let pde := s.memory (frameOf pd) (pdIndex virtAddr)
    if pde &&& pagePresent = 0 ∨ pde &&& pageUser = 0 then false
    else
      let pte := s.memory (frameOf pde) (ptIndex virtAddr)
      if pte &&& pagePresent = 0 ∨ pte &&& pageUser = 0 then false else true

def isUserRange (ptr size : BitVec 32) : Bool :=
  if ptr = 0 ∨ size = 0 then false
  else
    let last := ptr + size - 1
    if last < ptr then false
    else if ptr < userVaddrMin ∨ userVaddrMax < last then false
    else true

/-- As many rounds as a loop over pages can have. -/
def pageRounds : Nat := 1048576

def isUserRangeAccessible (s : Paging) (pdPhys ptr size : BitVec 32) : Bool :=
  let pd := pdPhys &&& pageMask
  if isUserRange ptr size = false ∨ pd = 0 then false
  else
    let last := ptr + size - 1
    match Loop.untilLast (· + 4096) (fun addr => decide (last ≤ addr ∨ addr + 4096 < addr))
      (fun _ addr => if pageIsUserAccessible s pd addr then .ok () else .error ()) pageRounds
      (ptr &&& pageMask) () with
    | .ok () => true
    | .error () => false

/-! ### What it computes -/

lemma pageIsUserAccessible_eq (s : Paging) {pd : BitVec 32} (hpd : pd ≠ 0) (virtAddr : BitVec 32) :
    pageIsUserAccessible s pd virtAddr = (s.userPte (frameOf pd) (pageNo virtAddr)).isSome := by
  simp only [pageIsUserAccessible, Paging.userPte, if_neg hpd, pdIndex_eq, ptIndex_eq]
  split_ifs <;> rfl

/-- The range is not empty, does not wrap round and lies in the user half of the address space. -/
lemma isUserRange_iff (ptr size : BitVec 32) :
    isUserRange ptr size = true ↔ 0 < size.toNat ∧ 0x40000000 ≤ ptr.toNat ∧
      ptr.toNat + size.toNat - 1 ≤ 0xBFFFFFFF := by
  have hsize := size.isLt
  have hzero : ∀ b : BitVec 32, b = 0 ↔ b.toNat = 0 := fun b => by
    rw [← BitVec.toNat_inj]
    rfl
  have hlast : (ptr + size - 1).toNat = (ptr.toNat + size.toNat + 4294967295) % 4294967296 := by
    rw [BitVec.toNat_sub, BitVec.toNat_add]
    change (4294967295 + _) % _ = _
    omega
  simp only [isUserRange, hzero, BitVec.lt_def, hlast]
  have hmin : userVaddrMin.toNat = 0x40000000 := rfl
  have hmax : userVaddrMax.toNat = 0xBFFFFFFF := rfl
  rw [hmin, hmax]
  split_ifs <;> simp <;> omega

lemma toNat_last {ptr size : BitVec 32} (h : isUserRange ptr size = true) :
    (ptr + size - 1).toNat = ptr.toNat + size.toNat - 1 := by
  obtain ⟨hsize, hmin, hmax⟩ := (isUserRange_iff ptr size).1 h
  rw [BitVec.toNat_sub, BitVec.toNat_add]
  change (4294967295 + _) % _ = _
  omega

/-- The page at which the loop stops: the first one that does not begin before the last byte. -/
def lastPage (ptr size : BitVec 32) : Nat := (ptr.toNat + size.toNat - 1 + 4095) / pageSize

/-- The loop looks at every page from that of the first byte to the one at which it stops. -/
lemma isUserRangeAccessible_iff (s : Paging) (pdPhys ptr size : BitVec 32) :
    isUserRangeAccessible s pdPhys ptr size = true ↔ isUserRange ptr size = true ∧
      ∀ n, pageNo ptr ≤ n → n ≤ lastPage ptr size → s.PageAccessible pdPhys n := by
  by_cases hrange : isUserRange ptr size = true
  swap
  · simp [isUserRangeAccessible, hrange]
  have hlast := toNat_last hrange
  obtain ⟨hsize, hmin, hmax⟩ := (isUserRange_iff ptr size).1 hrange
  have hle : pageNo ptr ≤ lastPage ptr size := by
    unfold pageNo lastPage pageSize
    omega
  by_cases hpd : pdPhys &&& pageMask = 0
  · simp only [isUserRangeAccessible, hpd, or_true, if_true, Bool.false_eq_true, false_iff]
    intro h
    exact (h.2 (pageNo ptr) le_rfl hle).1 hpd
  have haddr : ∀ n ≤ lastPage ptr size, (pageAddress n).toNat = n * 4096 := by
    intro n hn
    refine toNat_pageAddress_of_lt ?_
    unfold lastPage pageSize at hn
    omega
  have hstop : ∀ n ≤ lastPage ptr size,
      decide (ptr + size - 1 ≤ pageAddress n ∨ pageAddress n + 4096 < pageAddress n) =
        decide (n = lastPage ptr size) := by
    intro n hn
    have hn' := haddr n hn
    have hwrap : ¬ pageAddress n + 4096 < pageAddress n := by
      rw [BitVec.lt_def, BitVec.toNat_add, hn']
      change ¬ (_ + 4096) % _ < _
      unfold lastPage pageSize at hn
      omega
    rw [decide_eq_decide, or_iff_left hwrap, BitVec.le_def, hlast, hn']
    unfold lastPage pageSize at hn ⊢
    omega
  have hloop := Loop.untilLast_eq_foldlM (· + 4096)
    (fun addr => decide (ptr + size - 1 ≤ addr ∨ addr + 4096 < addr))
    (fun (_ : Unit) addr => if pageIsUserAccessible s (pdPhys &&& pageMask) addr
      then Except.ok () else Except.error ()) pageAddress pageRounds hle
    (by unfold pageRounds lastPage pageSize; omega) (fun _ _ _ => pageAddress_succ)
    (fun n _ hn => by rw [hstop n hn.le]; simpa using hn.ne)
    (by rw [hstop _ le_rfl]; simp) ()
  simp only [isUserRangeAccessible, hrange, hpd, Bool.true_eq_false, or_self, if_false,
    and_pageMask_eq ptr, hloop]
  have hpage : ∀ n ≤ lastPage ptr size,
      pageIsUserAccessible s (pdPhys &&& pageMask) (pageAddress n) = true ↔
        s.PageAccessible pdPhys n := by
    intro n hn
    have hn' : n < 1048576 := by
      unfold lastPage pageSize at hn
      omega
    rw [pageIsUserAccessible_eq s hpd, pageNo_pageAddress hn', frameOf_and_pageMask]
    exact (and_iff_right hpd).symm
  have hcheck := Loop.foldlM_range'_check
    (P := fun n => pageIsUserAccessible s (pdPhys &&& pageMask) (pageAddress n) = true)
    (n := pageNo ptr) (k := lastPage ptr size + 1 - pageNo ptr) (e := ()) (s := ())
  rw [true_and]
  refine Iff.trans ?_ (hcheck.trans ⟨fun h n hn hn' => (hpage n hn').1 (h n hn (by omega)),
    fun h n hn hn' => (hpage n (by omega)).2 (h n hn (by omega))⟩)
  cases (List.range' (pageNo ptr) (lastPage ptr size + 1 - pageNo ptr)).foldlM
    (fun (_ : Unit) n => if pageIsUserAccessible s (pdPhys &&& pageMask) (pageAddress n)
      then Except.ok () else Except.error ()) () <;> simp

/-! ### Exactness -/

/-- The bytes from `ptr` on are user memory that the directory maps. -/
structure Paging.RangeAccessible (s : Paging) (pdPhys ptr size : BitVec 32) : Prop where
  nonempty : 0 < size.toNat
  notNull : ptr ≠ 0
  noWrap : ptr.toNat + size.toNat - 1 < 2 ^ 32
  inUser : userVaddrMin.toNat ≤ ptr.toNat ∧ ptr.toNat + size.toNat - 1 ≤ userVaddrMax.toNat
  pages : ∀ a, ptr.toNat ≤ a → a < ptr.toNat + size.toNat →
    s.PageAccessible pdPhys (a / pageSize)

/-- The last byte is the first of its page, or the page after it is user memory too. -/
def Paging.NextAccessible (s : Paging) (pdPhys ptr size : BitVec 32) : Prop :=
  (ptr.toNat + size.toNat - 1) % pageSize = 0 ∨
    s.PageAccessible pdPhys ((ptr.toNat + size.toNat - 1) / pageSize + 1)

lemma Paging.rangeAccessible_iff (s : Paging) (pdPhys ptr size : BitVec 32) :
    s.RangeAccessible pdPhys ptr size ↔ isUserRange ptr size = true ∧
      ∀ n, pageNo ptr ≤ n → n ≤ (ptr.toNat + size.toNat - 1) / pageSize →
        s.PageAccessible pdPhys n := by
  rw [isUserRange_iff]
  constructor
  · rintro ⟨hsize, -, -, ⟨hmin, hmax⟩, hpages⟩
    refine ⟨⟨hsize, hmin, hmax⟩, fun n hn hn' => ?_⟩
    have := hpages (max ptr.toNat (n * pageSize)) (le_max_left _ _) (by
      unfold pageSize at hn' ⊢
      omega)
    have hdiv : max ptr.toNat (n * pageSize) / pageSize = n := by
      unfold pageNo pageSize at *
      omega
    rwa [hdiv] at this
  · rintro ⟨⟨hsize, hmin, hmax⟩, hpages⟩
    refine ⟨hsize, ?_, by omega, ⟨hmin, hmax⟩, fun a ha ha' => hpages _ ?_ ?_⟩
    · rintro rfl
      exact absurd hmin (by decide)
    · unfold pageNo pageSize
      omega
    · unfold pageSize
      omega

lemma isUserRangeAccessible_eq (s : Paging) (pdPhys ptr size : BitVec 32) :
    isUserRangeAccessible s pdPhys ptr size = true ↔
      s.RangeAccessible pdPhys ptr size ∧ s.NextAccessible pdPhys ptr size := by
  rw [isUserRangeAccessible_iff, s.rangeAccessible_iff, and_assoc]
  refine and_congr_right fun hrange => ?_
  obtain ⟨hsize, hmin, hmax⟩ := (isUserRange_iff ptr size).1 hrange
  have hfirst : pageNo ptr ≤ (ptr.toNat + size.toNat - 1) / pageSize :=
    Nat.div_le_div_right (by omega)
  unfold Paging.NextAccessible lastPage
  by_cases hmod : (ptr.toNat + size.toNat - 1) % pageSize = 0
  · have hsame : (ptr.toNat + size.toNat - 1 + 4095) / pageSize =
        (ptr.toNat + size.toNat - 1) / pageSize := by
      unfold pageSize at *
      omega
    rw [hsame, and_iff_left (Or.inl hmod)]
  · have hnext : (ptr.toNat + size.toNat - 1 + 4095) / pageSize =
        (ptr.toNat + size.toNat - 1) / pageSize + 1 := by
      unfold pageSize at *
      omega
    rw [hnext, or_iff_right hmod]
    refine ⟨fun h => ⟨fun n hn hn' => h n hn (by omega), h _ (by omega) le_rfl⟩,
      fun h n hn hn' => ?_⟩
    rcases Nat.lt_or_eq_of_le hn' with hlt | rfl
    · exact h.1 n hn (by omega)
    · exact h.2

/-- The check says what it should unless the range is all right and only the page after it is not:
it is exact just when this is not so. -/
theorem isUserRangeAccessible_exact_iff (s : Paging) (pdPhys ptr size : BitVec 32) :
    (isUserRangeAccessible s pdPhys ptr size = true ↔ s.RangeAccessible pdPhys ptr size) ↔
      (s.RangeAccessible pdPhys ptr size → s.NextAccessible pdPhys ptr size) := by
  rw [isUserRangeAccessible_eq]
  exact and_iff_left_iff_imp

/-- An address space with the page at 0x40000000 and no other. -/
def onePage : Paging where
  memoryBitmap := fun _ => 0xFF
  memory := fun page i =>
    if page = 512 ∧ i = 256 then 0x201007 else if page = 513 ∧ i = 0 then 0x202007 else 0

/-- The page behind the range is not mapped, and the range is refused. -/
theorem isUserRangeAccessible_not_exact :
    onePage.RangeAccessible 0x200000 0x40000000 4 ∧
      isUserRangeAccessible onePage 0x200000 0x40000000 4 = false := by
  constructor
  · refine ⟨by decide, by decide, by decide, by decide, fun a ha ha' => ?_⟩
    have ha : 0x40000000 ≤ a := ha
    have ha' : a < 0x40000004 := ha'
    have hpage : a / pageSize = 0x40000 := by
      unfold pageSize
      omega
    rw [hpage]
    exact ⟨by decide, by decide⟩
  · decide

end NeuroSpark
