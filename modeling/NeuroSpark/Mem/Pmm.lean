import Mathlib.Data.BitVec
import Mathlib.Data.Finset.Card
import Mathlib.Data.Finset.Range
import Mathlib.Logic.Function.Basic
import NeuroSpark.Lib.Sizes

/-!
# Physical pages

`pmm.c` keeps one bit for each of the 8192 pages of physical memory, in a bitmap of bytes. A free
page is found by trying the pages in order. Pages of the first megabyte are never freed.
-/

namespace NeuroSpark

def pageSize : Nat := 4096

/-- `BITMAP_SIZE * 8`. -/
def pageCount : Nat := 8192

/-- `memory_bitmap`. -/
abbrev Pmm := Fin 1024 → BitVec 8

namespace Pmm

/-- The byte of the bitmap with the bit of a page; zero beyond the bitmap. -/
def byteOf (b : Pmm) (page : Nat) : BitVec 8 :=
  if h : page / 8 < 1024 then b ⟨page / 8, h⟩ else 0

/-- Replace the byte with the bit of a page. -/
def setByteOf (b : Pmm) (page : Nat) (v : BitVec 8) : Pmm :=
  if h : page / 8 < 1024 then Function.update b ⟨page / 8, h⟩ v else b

/-- `1 << (page % 8)`. -/
def bitOf (page : Nat) : BitVec 8 := 1#8 <<< (page % 8)

/-- The bit of the page is set. -/
def Used (b : Pmm) (page : Nat) : Prop := b.byteOf page &&& bitOf page ≠ 0

instance (b : Pmm) (page : Nat) : Decidable (b.Used page) := inferInstanceAs (Decidable (_ ≠ _))

end Pmm

def pmmSetPage (b : Pmm) (pageAddr : Nat) : Pmm :=
  let page := pageAddr / pageSize
  b.setByteOf page (b.byteOf page ||| Pmm.bitOf page)

/-- Nothing below the first megabyte is freed. -/
def pmmFreePage (b : Pmm) (pageAddr : Nat) : Pmm :=
  let page := pageAddr / pageSize
  if pageAddr < 0x100000 then b
  else b.setByteOf page (b.byteOf page &&& ~~~Pmm.bitOf page)

def pmmIsPageUsed (b : Pmm) (pageAddr : Nat) : Bool := b.Used (pageAddr / pageSize)

/-- The address is 0 when every page is in use. -/
def pmmAllocPage (b : Pmm) : Pmm × Nat :=
  match (List.range pageCount).find? fun i => !pmmIsPageUsed b (i * pageSize) with
  | some i => (pmmSetPage b (i * pageSize), i * pageSize)
  | none => (b, 0)

namespace Pmm

lemma getLsbD_bitOf (page i : Nat) (hi : i < 8) :
    (bitOf page).getLsbD i = decide (i = page % 8) := by
  unfold bitOf
  grind

lemma used_iff_getLsbD (b : Pmm) (page : Nat) :
    b.Used page ↔ (b.byteOf page).getLsbD (page % 8) = true := by
  have hlt : page % 8 < 8 := Nat.mod_lt _ (by decide)
  constructor
  · intro h
    by_contra hbit
    refine h (BitVec.eq_of_getLsbD_eq fun i hi => ?_)
    rw [Bool.not_eq_true] at hbit
    rw [BitVec.getLsbD_and, getLsbD_bitOf _ _ hi]
    rcases eq_or_ne i (page % 8) with rfl | hip
    · rw [hbit, Bool.false_and]
      exact BitVec.getLsbD_zero.symm
    · simp [hip]
  · intro hbit h
    have hi : (b.byteOf page &&& bitOf page).getLsbD (page % 8) = _ := BitVec.getLsbD_and
    rw [h, getLsbD_bitOf _ _ hlt, hbit] at hi
    simp at hi

lemma not_used_of_ge {b : Pmm} {page : Nat} (h : pageCount ≤ page) : ¬ b.Used page := by
  have : ¬ page / 8 < 1024 := by
    unfold pageCount at h
    omega
  simp [Used, byteOf, this]

lemma Used.lt {b : Pmm} {page : Nat} (h : b.Used page) : page < pageCount := by
  by_contra hge
  exact not_used_of_ge (not_lt.1 hge) h

lemma ext_used {b c : Pmm} (h : ∀ page, b.Used page ↔ c.Used page) : b = c := by
  funext k
  refine BitVec.eq_of_getLsbD_eq fun i hi => ?_
  have hdiv : (8 * (k : Nat) + i) / 8 = k := by omega
  have hmod : (8 * (k : Nat) + i) % 8 = i := by omega
  have hk := h (8 * k + i)
  simp only [used_iff_getLsbD, byteOf, hdiv, hmod, k.isLt, dite_true, Fin.eta] at hk
  exact Bool.eq_iff_iff.2 hk

lemma byteOf_setByteOf (b : Pmm) (page page' : Nat) (v : BitVec 8) (h : page < pageCount) :
    (b.setByteOf page v).byteOf page' = if page' / 8 = page / 8 then v else b.byteOf page' := by
  have hlt : page / 8 < 1024 := by
    unfold pageCount at h
    omega
  simp only [byteOf, setByteOf, hlt, dite_true]
  by_cases hsame : page' / 8 = page / 8
  · simp [hsame, hlt]
  · split_ifs with hlt'
    · rw [Function.update_of_ne (by simpa [Fin.ext_iff] using hsame)]
    · rfl

end Pmm

variable {page : Nat}

lemma used_pmmSetPage (b : Pmm) (h : page < pageCount) (page' : Nat) :
    (pmmSetPage b (page * pageSize)).Used page' ↔ page' = page ∨ b.Used page' := by
  have hdiv : page * pageSize / pageSize = page := Nat.mul_div_cancel _ (by decide)
  have hlt : page' % 8 < 8 := Nat.mod_lt _ (by decide)
  simp only [Pmm.used_iff_getLsbD, pmmSetPage, hdiv, Pmm.byteOf_setByteOf _ _ _ _ h]
  by_cases hsame : page' / 8 = page / 8
  · have hbyte : b.byteOf page = b.byteOf page' := by simp [Pmm.byteOf, hsame]
    simp only [hsame, if_true, BitVec.getLsbD_or, Pmm.getLsbD_bitOf _ _ hlt, hbyte]
    grind
  · have : page' ≠ page := fun h => hsame (h ▸ rfl)
    simp [hsame, this]

lemma used_pmmFreePage (b : Pmm) (hlow : 0x100000 ≤ page * pageSize) (h : page < pageCount)
    (page' : Nat) :
    (pmmFreePage b (page * pageSize)).Used page' ↔ page' ≠ page ∧ b.Used page' := by
  have hdiv : page * pageSize / pageSize = page := Nat.mul_div_cancel _ (by decide)
  have hlt : page' % 8 < 8 := Nat.mod_lt _ (by decide)
  rw [pmmFreePage, if_neg (by omega)]
  simp only [Pmm.used_iff_getLsbD, hdiv, Pmm.byteOf_setByteOf _ _ _ _ h]
  by_cases hsame : page' / 8 = page / 8
  · have hbyte : b.byteOf page = b.byteOf page' := by simp [Pmm.byteOf, hsame]
    simp only [hsame, if_true, BitVec.getLsbD_and, BitVec.getLsbD_not, Pmm.getLsbD_bitOf _ _ hlt,
      hbyte]
    grind
  · have : page' ≠ page := fun h => hsame (h ▸ rfl)
    simp [hsame, this]

lemma used_foldl_pmmSetPage {l : List Nat} (hl : ∀ page ∈ l, page < pageCount) (b : Pmm)
    (page : Nat) :
    (l.foldl (fun b i => pmmSetPage b (i * pageSize)) b).Used page ↔ page ∈ l ∨ b.Used page := by
  induction l generalizing b with
  | nil => simp
  | cons a l ih =>
    rw [List.foldl_cons, ih (fun page hpage => hl page (List.mem_cons_of_mem _ hpage)),
      used_pmmSetPage b (hl a (List.mem_cons_self ..)), List.mem_cons]
    exact or_left_comm.trans or_assoc.symm

lemma Pmm.exists_used (P : Nat → Prop) :
    ∃ b : Pmm, ∀ page, b.Used page ↔ page < pageCount ∧ P page := by
  classical
  refine ⟨((List.range pageCount).filter P).foldl (fun b i => pmmSetPage b (i * pageSize))
    fun _ => 0, fun page => ?_⟩
  have hnone : ¬ Pmm.Used (fun _ => 0) page := by
    simp [Pmm.used_iff_getLsbD, Pmm.byteOf]
  rw [used_foldl_pmmSetPage fun page hpage => by simpa using (List.mem_filter.1 hpage).1,
    or_iff_left hnone]
  simp

lemma pmmAllocPage_cases (b : Pmm) :
    (∀ page < pageCount, b.Used page) ∧ pmmAllocPage b = (b, 0) ∨
      ∃ page < pageCount, ¬ b.Used page ∧
        pmmAllocPage b = (pmmSetPage b (page * pageSize), page * pageSize) := by
  have hdiv : ∀ i, i * pageSize / pageSize = i := fun i => Nat.mul_div_cancel _ (by decide)
  unfold pmmAllocPage
  cases hfind : (List.range pageCount).find? fun i => !pmmIsPageUsed b (i * pageSize) with
  | none =>
    refine Or.inl ⟨fun page hpage => ?_, rfl⟩
    simpa [pmmIsPageUsed, hdiv] using List.find?_eq_none.1 hfind page (List.mem_range.2 hpage)
  | some page =>
    refine Or.inr ⟨page, List.mem_range.1 (List.mem_of_find?_eq_some hfind), ?_, rfl⟩
    simpa [pmmIsPageUsed, hdiv] using List.find?_some hfind

def Pmm.freePages (b : Pmm) : Finset Nat :=
  (Finset.range pageCount).filter fun page => ¬ b.Used page

lemma Pmm.mem_freePages {b : Pmm} : page ∈ b.freePages ↔ page < pageCount ∧ ¬ b.Used page := by
  simp [freePages]

lemma Pmm.card_freePages_take {b c : Pmm} (hpage : page < pageCount) (hfree : ¬ b.Used page)
    (h : ∀ q, c.Used q ↔ q = page ∨ b.Used q) :
    c.freePages.card + 1 = b.freePages.card := by
  have hc : c.freePages = b.freePages.erase page := by
    ext q
    rw [Finset.mem_erase, mem_freePages, mem_freePages, h, not_or]
    exact and_left_comm
  rw [hc]
  exact Finset.card_erase_add_one (mem_freePages.2 ⟨hpage, hfree⟩)

/-- The pages that are free, the lowest first. -/
def Pmm.freeList (b : Pmm) : List Nat :=
  (List.range pageCount).filter fun page => !decide (b.Used page)

lemma Pmm.mem_freeList {b : Pmm} : page ∈ b.freeList ↔ page < pageCount ∧ ¬ b.Used page := by
  simp [freeList]

lemma Pmm.freeList_sorted (b : Pmm) : b.freeList.Pairwise (· < ·) :=
  List.pairwise_lt_range.filter _

lemma Pmm.used_iff_freeList {b : Pmm} : b.Used page ↔ page < pageCount ∧ page ∉ b.freeList := by
  rw [mem_freeList]
  refine ⟨fun h => ⟨h.lt, fun hfree => hfree.2 h⟩, fun h => ?_⟩
  by_contra hnot
  exact h.2 ⟨h.1, hnot⟩

lemma Pmm.length_freeList (b : Pmm) : b.freeList.length = b.freePages.card := by
  have hset : b.freeList.toFinset = b.freePages := by
    ext page
    rw [List.mem_toFinset, mem_freeList, mem_freePages]
  rw [← hset, List.toFinset_card_of_nodup]
  exact b.freeList_sorted.imp fun h => h.ne

lemma pmmAllocPage_freeList (b : Pmm) :
    b.freeList = [] ∧ pmmAllocPage b = (b, 0) ∨
      ∃ page rest, b.freeList = page :: rest ∧
        pmmAllocPage b = (pmmSetPage b (page * pageSize), page * pageSize) ∧
        (pmmSetPage b (page * pageSize)).freeList = rest := by
  have hdiv : ∀ i, i * pageSize / pageSize = i := fun i => Nat.mul_div_cancel _ (by decide)
  have hfind : (List.range pageCount).find? (fun i => !pmmIsPageUsed b (i * pageSize)) =
      b.freeList.head? := by
    simp only [pmmIsPageUsed, hdiv, Pmm.freeList, List.head?_filter]
  have halloc : pmmAllocPage b = match b.freeList.head? with
      | some i => (pmmSetPage b (i * pageSize), i * pageSize)
      | none => (b, 0) := by
    unfold pmmAllocPage
    rw [hfind]
  generalize hfree : b.freeList = free at halloc
  rw [halloc]
  cases free with
  | nil => exact Or.inl ⟨rfl, rfl⟩
  | cons page rest =>
    refine Or.inr ⟨page, rest, rfl, rfl, ?_⟩
    have hsorted := b.freeList_sorted
    have hmem : page ∈ b.freeList := by
      rw [hfree]
      exact List.mem_cons_self
    have hpage := Pmm.mem_freeList.1 hmem
    have hused := used_pmmSetPage b hpage.1
    have hlater : ∀ q ∈ rest, q ≠ page := by
      rw [hfree] at hsorted
      exact fun q hq => ((List.pairwise_cons.1 hsorted).1 q hq).ne'
    calc (pmmSetPage b (page * pageSize)).freeList
        = b.freeList.filter fun q => !decide (q = page) := by
          rw [Pmm.freeList, Pmm.freeList, List.filter_filter]
          simp only [hused, Bool.decide_or, Bool.not_or]
      _ = rest := by
          rw [hfree, List.filter_cons_of_neg (by simp)]
          exact List.filter_eq_self.2 fun q hq => by simpa using hlater q hq

-- the list is never to be computed in a proof
attribute [irreducible] Pmm.freeList

end NeuroSpark
