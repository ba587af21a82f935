import Mathlib.Order.Interval.Finset.Nat
import NeuroSpark.Mem.UserPages

/-!
# Ranges of user pages

`map_user_pages_for_range`, `unmap_user_pages_for_range` and `set_user_writable_for_range` go
through the pages of a range one by one, from that of the first byte to that of the last, and stop
when one of them fails. What they did to the pages before stays.
-/

namespace NeuroSpark

def alignUpPage (value : BitVec 32) : BitVec 32 := value + 4095 &&& pageMask
def pageFloor (value : BitVec 32) : BitVec 32 := value &&& pageMask

/-- The loop of the three functions. -/
def forUserPages (round : Paging → BitVec 32 → Except Paging Paging) (s : Paging)
    (start length : BitVec 32) : Paging × Bool :=
  if length = 0 then (s, true)
  else
    let last := pageFloor (start + length - 1)
    match Loop.untilLast (· + 4096) (fun va => decide (last ≤ va)) round pageRounds
      (pageFloor start) s with
    | .ok s => (s, true)
    | .error s => (s, false)

def mapUserPagesForRange (s : Paging) (pd start length : BitVec 32) : Paging × Bool :=
  forUserPages (mapRangeRound pd) s start length

/-- A round that is left when the page is not there. -/
def untilFails (f : Paging → BitVec 32 → Paging × Bool) (s : Paging) (virtAddr : BitVec 32) :
    Except Paging Paging :=
  let r := f s virtAddr
  if r.2 then .ok r.1 else .error r.1

def unmapUserPagesForRange (s : Paging) (pd start length : BitVec 32) : Paging × Bool :=
  forUserPages (untilFails fun s va => unmapUserPage s pd va) s start length

def setUserWritableForRange (s : Paging) (pd start length : BitVec 32) (writable : Bool) :
    Paging × Bool :=
  forUserPages (untilFails fun s va => setUserPageWritable s pd va writable) s start length

/-! ### The pages of a range -/

/-- The loop goes over page `n`. Where the range wraps round it only goes over the first page. -/
def InRange (start length : BitVec 32) (n : Nat) : Prop :=
  length ≠ 0 ∧ pageNo start ≤ n ∧ n ≤ max (pageNo start) (pageNo (start + length - 1))

lemma InRange.lt {start length : BitVec 32} {n : Nat} (h : InRange start length n) :
    n < 1048576 := by
  have h₁ := pageNo_lt start
  have h₂ := pageNo_lt (start + length - 1)
  obtain ⟨-, -, hle⟩ := h
  omega

section

variable {base : Pmm} {s : Paging} {dir : Nat} {pd start length : BitVec 32}
  {round : Paging → BitVec 32 → Except Paging Paging}

lemma forUserPages_zero : forUserPages round s start 0 = (s, true) := if_pos rfl

lemma forUserPages_eq (hlength : length ≠ 0) :
    forUserPages round s start length =
      match (List.range' (pageNo start)
          (max (pageNo start) (pageNo (start + length - 1)) + 1 - pageNo start)).foldlM
        (fun s n => round s (pageAddress n)) s with
      | .ok s => (s, true)
      | .error s => (s, false) := by
  have hstart := pageNo_lt start
  have hend := pageNo_lt (start + length - 1)
  have hstop : ∀ n < 1048576, decide (pageAddress (pageNo (start + length - 1)) ≤ pageAddress n) =
      decide (pageNo (start + length - 1) ≤ n) := by
    intro n hn
    rw [decide_eq_decide, BitVec.le_def, toNat_pageAddress_of_lt hend, toNat_pageAddress_of_lt hn]
    unfold pageSize
    omega
  rw [forUserPages, if_neg hlength]
  simp only [pageFloor, and_pageMask_eq]
  rw [Loop.untilLast_eq_foldlM _ _ _ pageAddress _ (n := pageNo start)
    (m := max (pageNo start) (pageNo (start + length - 1))) (by omega)
    (by unfold pageRounds; omega) (fun _ _ _ => pageAddress_succ)
    (fun n _ hn => by rw [hstop n (by omega), decide_eq_false_iff_not]; omega)
    (by rw [hstop _ (by omega), decide_eq_true_eq]; omega)]

variable (round s start) in
/-- The rule for the loop: `I n` holds when the page `n` comes to be looked at, and `Q` when a round
has failed. -/
lemma forUserPages_invariant (hlength : length ≠ 0) {I : Nat → Paging → Prop} {Q : Paging → Prop}
    (hs : I (pageNo start) s)
    (hok : ∀ n, InRange start length n → ∀ t t', I n t → round t (pageAddress n) = .ok t' →
      I (n + 1) t')
    (herror : ∀ n, InRange start length n → ∀ t t', I n t →
      round t (pageAddress n) = .error t' → Q t') :
    (forUserPages round s start length).2 = true ∧
        I (max (pageNo start) (pageNo (start + length - 1)) + 1)
          (forUserPages round s start length).1 ∨
      (forUserPages round s start length).2 = false ∧ Q (forUserPages round s start length).1 := by
  set last := max (pageNo start) (pageNo (start + length - 1)) with hlast
  have hin : ∀ i, pageNo start ≤ i → i < pageNo start + (last + 1 - pageNo start) →
      InRange start length i := fun i hi hi' => ⟨hlength, hi, by omega⟩
  have hloop := Loop.foldlM_range'_invariant (f := fun s n => round s (pageAddress n))
    (I := I) (Q := Q) (n := pageNo start) (k := last + 1 - pageNo start)
    (fun i t t' hi hi' => hok i (hin i hi hi') t t')
    (fun i t t' hi hi' => herror i (hin i hi hi') t t') hs
  have hend : pageNo start + (last + 1 - pageNo start) = last + 1 := by omega
  rw [hend] at hloop
  rw [forUserPages_eq hlength, ← hlast]
  cases hresult : (List.range' (pageNo start) (last + 1 - pageNo start)).foldlM
    (fun s n => round s (pageAddress n)) s with
  | error t => exact Or.inr ⟨rfl, hloop.2 t hresult⟩
  | ok t => exact Or.inl ⟨rfl, hloop.1 t hresult⟩

lemma forUserPages_preserves {J : Paging → Prop}
    (hround : ∀ n, InRange start length n → ∀ t, J t → ∀ t',
      round t (pageAddress n) = .ok t' ∨ round t (pageAddress n) = .error t' → J t') (hs : J s) :
    J (forUserPages round s start length).1 := by
  by_cases hlength : length = 0
  · subst hlength
    rwa [forUserPages_zero]
  rcases forUserPages_invariant s start round hlength (I := fun _ => J) hs
    (fun n hn t t' ht hok => hround n hn t ht t' (Or.inl hok))
    (fun n hn t t' ht herror => hround n hn t ht t' (Or.inr herror)) with ⟨-, h⟩ | ⟨-, h⟩
  · exact h
  · exact h

/-- The rounds of a loop change one page each. What holds of the entries they leave holds of all
pages of the range when the loop goes through; when it does not, some round has failed. -/
lemma forUserPages_spec (round : Paging → BitVec 32 → Except Paging Paging)
    (start length : BitVec 32) (lost : Prop) (Q : Nat → Option (BitVec 32) → Prop) (F : Nat → Prop)
    (hs : s.Sound base dir)
    (hround : ∀ n, InRange start length n → ∀ t, t.Sound base dir →
      t.userPte dir n = s.userPte dir n →
      (∀ t', round t (pageAddress n) = .ok t' →
        t.Changes base dir (· = n) (fun m => m = n ∧ lost) t' ∧ Q n (t'.userPte dir n)) ∧
      ∀ t', round t (pageAddress n) = .error t' →
        t.Changes base dir (· = n) (fun m => m = n ∧ lost) t' ∧ F n) :
    s.Changes base dir (InRange start length) (fun n => InRange start length n ∧ lost)
        (forUserPages round s start length).1 ∧
      ((forUserPages round s start length).2 = true →
        ∀ n, InRange start length n → Q n ((forUserPages round s start length).1.userPte dir n)) ∧
      ((forUserPages round s start length).2 = false → ∃ n, InRange start length n ∧ F n) := by
  by_cases hlength : length = 0
  · subst hlength
    rw [forUserPages_zero]
    exact ⟨Paging.Changes.refl hs, fun _ n hn => absurd rfl hn.1, by simp⟩
  let I : Nat → Paging → Prop := fun i t =>
    s.Changes base dir (InRange start length) (fun n => InRange start length n ∧ lost) t ∧
      (∀ n, InRange start length n → i ≤ n → t.userPte dir n = s.userPte dir n) ∧
      ∀ n, InRange start length n → n < i → Q n (t.userPte dir n)
  have hloop := forUserPages_invariant s start round hlength (I := I)
    (Q := fun t => s.Changes base dir (InRange start length)
      (fun n => InRange start length n ∧ lost) t ∧ ∃ n, InRange start length n ∧ F n)
    ⟨Paging.Changes.refl hs, fun _ _ _ => rfl, fun n hn hlt => absurd hn.2.1 (by omega)⟩
    (fun i hin t t' ht hok => ?_) fun i hin t t' ht herror => ?_
  · rcases hloop with ⟨hresult, hchanges, -, hdone⟩ | ⟨hresult, hchanges, hfail⟩
    · rw [hresult]
      exact ⟨hchanges, fun _ n hn => hdone n hn (Nat.lt_succ_of_le hn.2.2), by simp⟩
    · rw [hresult]
      exact ⟨hchanges, by simp, fun _ => hfail⟩
  · obtain ⟨hchanges, hrest, hdone⟩ := ht
    obtain ⟨hstep, hQ⟩ := (hround i hin t hchanges.sound (hrest i hin le_rfl)).1 t' hok
    refine ⟨hchanges.trans (hstep.mono ?_ ?_), fun n hn hin' => ?_, fun n hn hlt => ?_⟩
    · rintro n rfl
      exact hin
    · rintro n ⟨rfl, hlost⟩
      exact ⟨hin, hlost⟩
    · rw [hstep.outside n hn.lt (by omega), hrest n hn (by omega)]
    · rcases Nat.eq_or_lt_of_le (Nat.le_of_lt_succ hlt) with rfl | hlt
      · exact hQ
      · rw [hstep.outside n hn.lt hlt.ne]
        exact hdone n hn hlt
  · obtain ⟨hchanges, hrest, -⟩ := ht
    obtain ⟨hstep, hfail⟩ := (hround i hin t hchanges.sound (hrest i hin le_rfl)).2 t' herror
    refine ⟨hchanges.trans (hstep.mono ?_ ?_), i, hin, hfail⟩
    · rintro n rfl
      exact hin
    · rintro n ⟨rfl, hlost⟩
      exact ⟨hin, hlost⟩

lemma mapUserPagesForRange_spec (start length : BitVec 32) (hs : s.Sound base dir)
    (hlow : ∀ page < 256, base.Used page)
    (hpd : pd &&& pageMask ≠ 0) (hdir : frameOf pd = dir)
    (huser : ∀ n, InRange start length n → UserPage n) :
    s.Changes base dir (InRange start length) (fun _ => False)
        (mapUserPagesForRange s pd start length).1 ∧
      ((mapUserPagesForRange s pd start length).2 = true → ∀ n, InRange start length n →
        ((mapUserPagesForRange s pd start length).1.userPte dir n).isSome = true) := by
  have hspec := forUserPages_spec (mapRangeRound pd) start length False
    (fun _ e => e.isSome = true) (fun _ => True) hs fun n hn t ht _ => ?_
  · exact ⟨hspec.1.mono (fun _ h => h) fun _ h => h.2, hspec.2.1⟩
  rcases mapRangeRound_cases ht hlow hpd hdir (huser n hn) with
    ⟨⟨e, he⟩, hround⟩ | ⟨-, -, hround⟩ | ⟨-, t', page, -, -, hround, hchanges, hpte, -⟩
  · constructor
    · rintro t' ht'
      rw [hround, Except.ok.injEq] at ht'
      subst ht'
      exact ⟨Paging.Changes.refl ht, by rw [he]; rfl⟩
    · rintro t' ht'
      rw [hround] at ht'
      cases ht'
  · constructor
    · rintro t' ht'
      rw [hround] at ht'
      cases ht'
    · rintro t' ht'
      rw [hround, Except.error.injEq] at ht'
      subst ht'
      exact ⟨Paging.Changes.refl ht, trivial⟩
  · constructor
    · rintro t'' ht'
      rw [hround, Except.ok.injEq] at ht'
      subst ht'
      exact ⟨hchanges.mono (fun _ h => h) fun _ h => h.elim, by rw [hpte]; rfl⟩
    · rintro t'' ht'
      rw [hround] at ht'
      cases ht'

section

variable (hs : s.Sound base dir)
include hs

lemma setWritableRound_cases {n : Nat} (hpd : pd &&& pageMask ≠ 0) (hdir : frameOf pd = dir)
    (hn : n < 1048576) (writable : Bool) :
    s.userPte dir n = none ∧
        untilFails (fun s va => setUserPageWritable s pd va writable) s (pageAddress n) = .error s ∨
      ∃ e s', s.userPte dir n = some e ∧
        untilFails (fun s va => setUserPageWritable s pd va writable) s (pageAddress n) = .ok s' ∧
        s.Changes base dir (· = n) (fun _ => False) s' ∧
        s'.userPte dir n = some (withWritable e writable) := by
  rw [untilFails]
  cases he : s.userPte dir n with
  | none =>
    have hround := setUserPageWritable_eq (s := s) hpd hdir hn writable
    rw [he] at hround
    simp [hround]
  | some e =>
    obtain ⟨s', hround, hchanges, hpte⟩ := setUserPageWritable_some hs hpd hdir hn writable he
    exact Or.inr ⟨e, s', rfl, by rw [hround]; rfl, hchanges, hpte⟩

lemma unmapRound_cases {n : Nat} (hlow : ∀ page < 256, base.Used page) (hpd : pd &&& pageMask ≠ 0)
    (hdir : frameOf pd = dir) (hn : n < 1048576) :
    s.userPte dir n = none ∧
        untilFails (fun s va => unmapUserPage s pd va) s (pageAddress n) = .error s ∨
      ∃ e s', s.userPte dir n = some e ∧
        untilFails (fun s va => unmapUserPage s pd va) s (pageAddress n) = .ok s' ∧
        s.Changes base dir (· = n) (· = n) s' ∧ s'.userPte dir n = none := by
  rw [untilFails]
  cases he : s.userPte dir n with
  | none =>
    have hround := unmapUserPage_eq (s := s) hpd hdir hn
    rw [he] at hround
    simp [hround]
  | some e =>
    obtain ⟨s', hround, hchanges, hpte⟩ := unmapUserPage_some hs hlow hpd hdir hn he
    exact Or.inr ⟨e, s', rfl, by rw [hround]; rfl, hchanges, hpte⟩

omit hs in
lemma setUserWritableForRange_spec (start length : BitVec 32) (hs : s.Sound base dir)
    (hpd : pd &&& pageMask ≠ 0)
    (hdir : frameOf pd = dir) (writable : Bool) :
    s.Changes base dir (InRange start length) (fun _ => False)
        (setUserWritableForRange s pd start length writable).1 ∧
      ((setUserWritableForRange s pd start length writable).2 = true →
        ∀ n, InRange start length n → ∃ e, s.userPte dir n = some e ∧
          (setUserWritableForRange s pd start length writable).1.userPte dir n =
            some (withWritable e writable)) ∧
      ((setUserWritableForRange s pd start length writable).2 = false →
        ∃ n, InRange start length n ∧ s.userPte dir n = none) := by
  have hspec := forUserPages_spec (untilFails fun s va => setUserPageWritable s pd va writable)
    start length False
    (fun n e' => ∃ e, s.userPte dir n = some e ∧ e' = some (withWritable e writable))
    (fun n => s.userPte dir n = none) hs fun n hn t ht hpte => ?_
  · exact ⟨hspec.1.mono (fun _ h => h) fun _ h => h.2, hspec.2⟩
  rcases setWritableRound_cases ht hpd hdir hn.lt writable with
    ⟨hnone, hround⟩ | ⟨e, t', he, hround, hchanges, hentry⟩
  · simp only [hround, reduceCtorEq, false_implies, implies_true, true_and, Except.error.injEq]
    rintro t' rfl
    exact ⟨Paging.Changes.refl ht, hpte ▸ hnone⟩
  · simp only [hround, Except.ok.injEq, reduceCtorEq, false_implies, implies_true, and_true]
    rintro t'' rfl
    exact ⟨hchanges.mono (fun _ h => h) fun _ h => h.elim, e, hpte ▸ he, hentry⟩

omit hs in
lemma unmapUserPagesForRange_spec (start length : BitVec 32) (hs : s.Sound base dir)
    (hlow : ∀ page < 256, base.Used page)
    (hpd : pd &&& pageMask ≠ 0) (hdir : frameOf pd = dir) :
    s.Changes base dir (InRange start length) (InRange start length)
        (unmapUserPagesForRange s pd start length).1 ∧
      ((unmapUserPagesForRange s pd start length).2 = true → ∀ n, InRange start length n →
        (unmapUserPagesForRange s pd start length).1.userPte dir n = none) ∧
      ((unmapUserPagesForRange s pd start length).2 = false →
        ∃ n, InRange start length n ∧ s.userPte dir n = none) := by
  have hspec := forUserPages_spec (untilFails fun s va => unmapUserPage s pd va) start length True
    (fun _ e' => e' = none) (fun n => s.userPte dir n = none) hs fun n hn t ht hpte => ?_
  · exact ⟨hspec.1.mono (fun _ h => h) fun _ h => h.1, hspec.2⟩
  rcases unmapRound_cases ht hlow hpd hdir hn.lt with
    ⟨hnone, hround⟩ | ⟨e, t', he, hround, hchanges, hentry⟩
  · simp only [hround, reduceCtorEq, false_implies, implies_true, true_and, Except.error.injEq]
    rintro t' rfl
    exact ⟨Paging.Changes.refl ht, hpte ▸ hnone⟩
  · simp only [hround, Except.ok.injEq, reduceCtorEq, false_implies, implies_true, and_true]
    rintro t'' rfl
    exact ⟨hchanges.mono (fun _ h => h) fun _ h => h, hentry⟩

lemma forUserPages_none (hround : ∀ n, InRange start length n → ∀ t, t.Sound base dir → ∀ t',
      round t (pageAddress n) = .ok t' ∨ round t (pageAddress n) = .error t' →
      t.Changes base dir (· = n) (· = n) t' ∧ (t.userPte dir n = none → t'.userPte dir n = none))
    {m : Nat} (hm : m < 1048576) (hnone : s.userPte dir m = none) :
    (forUserPages round s start length).1.userPte dir m = none := by
  have hkept := @forUserPages_preserves s start length round
    (fun t => t.Sound base dir ∧ t.userPte dir m = none) (fun n hn t ht t' ht' => ?_) ⟨hs, hnone⟩
  · exact hkept.2
  obtain ⟨hchanges, hself⟩ := hround n hn t ht.1 t' ht'
  refine ⟨hchanges.sound, ?_⟩
  by_cases hmn : m = n
  · subst hmn
    exact hself ht.2
  · rw [hchanges.outside m hm hmn]
    exact ht.2

lemma setUserWritableForRange_none (hpd : pd &&& pageMask ≠ 0) (hdir : frameOf pd = dir)
    (writable : Bool) {m : Nat} (hm : m < 1048576) (hnone : s.userPte dir m = none) :
    (setUserWritableForRange s pd start length writable).1.userPte dir m = none := by
  refine forUserPages_none hs (fun n hn t ht t' ht' => ?_) hm hnone
  rcases setWritableRound_cases ht hpd hdir hn.lt writable with
    ⟨-, hround⟩ | ⟨e, t'', he, hround, hchanges, -⟩
  · rw [hround] at ht'
    simp only [reduceCtorEq, Except.error.injEq, false_or] at ht'
    subst ht'
    exact ⟨Paging.Changes.refl ht, id⟩
  · rw [hround] at ht'
    simp only [reduceCtorEq, Except.ok.injEq, or_false] at ht'
    subst ht'
    exact ⟨hchanges.mono (fun _ h => h) fun _ h => h.elim, fun h => by simp [he] at h⟩

lemma unmapUserPagesForRange_none (hlow : ∀ page < 256, base.Used page) (hpd : pd &&& pageMask ≠ 0)
    (hdir : frameOf pd = dir) {m : Nat} (hm : m < 1048576) (hnone : s.userPte dir m = none) :
    (unmapUserPagesForRange s pd start length).1.userPte dir m = none := by
  refine forUserPages_none hs (fun n hn t ht t' ht' => ?_) hm hnone
  rcases unmapRound_cases ht hlow hpd hdir hn.lt with ⟨-, hround⟩ |
    ⟨e, t'', -, hround, hchanges, hentry⟩
  · rw [hround] at ht'
    simp only [reduceCtorEq, Except.error.injEq, false_or] at ht'
    subst ht'
    exact ⟨Paging.Changes.refl ht, id⟩
  · rw [hround] at ht'
    simp only [reduceCtorEq, Except.ok.injEq, or_false] at ht'
    subst ht'
    exact ⟨hchanges, fun _ => hentry⟩

/-! ### How much memory a range takes -/

/-- The entries of the directory between two pages that have no table yet. -/
def Paging.missingTables (s : Paging) (dir first last : Nat) : Finset Nat :=
  (Finset.Icc (first / 1024) (last / 1024)).filter fun d => s.tableOf dir (Fin.ofNat 1024 d) = none

/-- What it takes to map the pages between two that are not mapped: one page for each of them and
one for each table. -/
def Paging.rangeCost (s : Paging) (dir first last : Nat) : Nat :=
  last + 1 - first + (s.missingTables dir first last).card

/-- The tables that are missing between two pages, by what they are for. -/
def Paging.rangeTables (s : Paging) (dir first last : Nat) : Finset Nat :=
  ((Finset.Icc first last).image (· / 1024)).filter fun d => s.tableOf dir (Fin.ofNat 1024 d) = none

/-- What it takes to map what is not mapped between two pages. -/
def Paging.rangeNeed (s : Paging) (dir first last : Nat) : Nat :=
  ((Finset.Icc first last).filter fun n => s.userPte dir n = none).card +
    (s.rangeTables dir first last).card

lemma tableOf_of_userPte {n : Nat} {e : BitVec 32}
    (h : s.userPte dir n = some e) : s.tableOf dir (dirIndex n) ≠ none := by
  obtain ⟨table, htable, -⟩ := hs.of_userPte h
  rw [htable]
  exact Option.some_ne_none table

omit hs in
lemma Icc_eq_insert {i last : Nat} (hi : i ≤ last) :
    Finset.Icc i last = insert i (Finset.Icc (i + 1) last) := by
  ext n
  rw [Finset.mem_insert, Finset.mem_Icc, Finset.mem_Icc]
  omega

omit hs in
lemma rangeTables_eq {i last : Nat} (hi : i ≤ last) :
    s.rangeTables dir i last =
      if s.tableOf dir (dirIndex i) = none then insert (i / 1024) (s.rangeTables dir (i + 1) last)
      else s.rangeTables dir (i + 1) last := by
  rw [Paging.rangeTables, Icc_eq_insert hi, Finset.image_insert, Finset.filter_insert]
  rfl

omit hs in
lemma card_unmapped_eq {i last : Nat} (hi : i ≤ last) :
    ((Finset.Icc i last).filter fun n => s.userPte dir n = none).card =
      (if s.userPte dir i = none then 1 else 0) +
        ((Finset.Icc (i + 1) last).filter fun n => s.userPte dir n = none).card := by
  rw [Icc_eq_insert hi, Finset.filter_insert]
  split_ifs
  · rw [Finset.card_insert_of_notMem (by simp), Nat.add_comm]
  · rw [Nat.zero_add]

lemma rangeNeed_mapped {i last : Nat} (hi : i ≤ last) {e : BitVec 32}
    (h : s.userPte dir i = some e) : s.rangeNeed dir (i + 1) last = s.rangeNeed dir i last := by
  rw [Paging.rangeNeed, Paging.rangeNeed, card_unmapped_eq hi, rangeTables_eq hi,
    if_neg (tableOf_of_userPte hs h), h, if_neg (Option.some_ne_none e), Nat.zero_add]

omit hs in
/-- What the rest of a range needs when its first page has been mapped. -/
lemma rangeNeed_succ {s' : Paging} {i last : Nat} (hi : i ≤ last) (hlast : last < 1048576)
    (hnone : s.userPte dir i = none)
    (houtside : ∀ n < 1048576, ¬ n = i → s'.userPte dir n = s.userPte dir n)
    (htables : ∀ k, s'.tableOf dir k = none ↔ s.tableOf dir k = none ∧ k ≠ dirIndex i) :
    s'.rangeNeed dir (i + 1) last + s.pageCost dir i = s.rangeNeed dir i last := by
  have hpages : ((Finset.Icc (i + 1) last).filter fun n => s'.userPte dir n = none) =
      (Finset.Icc (i + 1) last).filter fun n => s.userPte dir n = none := by
    refine Finset.filter_congr fun n hn => ?_
    rw [Finset.mem_Icc] at hn
    rw [houtside n (by omega) (by omega)]
  have htab : s'.rangeTables dir (i + 1) last =
      (s.rangeTables dir (i + 1) last).erase (i / 1024) := by
    ext d
    simp only [Paging.rangeTables, Finset.mem_erase, Finset.mem_filter, htables]
    constructor
    · rintro ⟨hd, hold, hne⟩
      refine ⟨?_, hd, hold⟩
      rintro rfl
      exact hne rfl
    · rintro ⟨hne, hd, hold⟩
      refine ⟨hd, hold, fun heq => hne ?_⟩
      obtain ⟨n, hn, rfl⟩ := Finset.mem_image.1 hd
      rw [Finset.mem_Icc] at hn
      have hval := congrArg Fin.val heq
      simp only [dirIndex, Fin.val_ofNat] at hval
      omega
  rw [Paging.rangeNeed, Paging.rangeNeed, Paging.pageCost, card_unmapped_eq hi, if_pos hnone,
    hpages, htab, rangeTables_eq hi]
  split_ifs with htable
  · have hins : insert (i / 1024) (s.rangeTables dir (i + 1) last) =
        insert (i / 1024) ((s.rangeTables dir (i + 1) last).erase (i / 1024)) := by
      ext d
      rw [Finset.mem_insert, Finset.mem_insert, Finset.mem_erase]
      tauto
    rw [hins, Finset.card_insert_of_notMem (Finset.notMem_erase _ _)]
    omega
  · -- the table is there, so that it is not among the missing ones
    have hnot : i / 1024 ∉ s.rangeTables dir (i + 1) last := fun hmem =>
      htable (Finset.mem_filter.1 hmem).2
    rw [Finset.erase_eq_of_notMem hnot]
    omega

omit hs in
lemma rangeNeed_empty (s : Paging) (dir last : Nat) : s.rangeNeed dir (last + 1) last = 0 := by
  simp [Paging.rangeNeed, Paging.rangeTables]

/-- A range that is not empty is mapped just when there is memory for what is missing. -/
lemma mapUserPagesForRange_ok_iff (hlow : ∀ page < 256, base.Used page) (hpd : pd &&& pageMask ≠ 0)
    (hdir : frameOf pd = dir) (hlength : length ≠ 0)
    (huser : ∀ n, InRange start length n → UserPage n) :
    (mapUserPagesForRange s pd start length).2 = true ↔
      s.rangeNeed dir (pageNo start) (max (pageNo start) (pageNo (start + length - 1))) ≤
        s.memoryBitmap.freePages.card := by
  have hlt : max (pageNo start) (pageNo (start + length - 1)) < 1048576 :=
    max_lt (pageNo_lt start) (pageNo_lt _)
  set last := max (pageNo start) (pageNo (start + length - 1)) with hlast
  let I : Nat → Paging → Prop := fun i t => t.Sound base dir ∧
    (t.rangeNeed dir i last ≤ t.memoryBitmap.freePages.card ↔
      s.rangeNeed dir (pageNo start) last ≤ s.memoryBitmap.freePages.card)
  have hloop := forUserPages_invariant s start (mapRangeRound pd) hlength (I := I)
    (Q := fun _ => ¬ s.rangeNeed dir (pageNo start) last ≤ s.memoryBitmap.freePages.card)
    ⟨hs, Iff.rfl⟩ (fun i hin t t' ht hok => ?_) fun i hin t t' ht herror => ?_
  · rcases hloop with ⟨hresult, -, hiff⟩ | ⟨hresult, hshort⟩
    · rw [rangeNeed_empty] at hiff
      exact iff_of_true hresult (hiff.1 (Nat.zero_le _))
    · exact iff_of_false (by rw [mapUserPagesForRange, hresult]; decide) hshort
  · obtain ⟨ht, hiff⟩ := ht
    have hle : i ≤ last := hin.2.2
    rcases mapRangeRound_cases ht hlow hpd hdir (huser i hin) with
      ⟨⟨e, he⟩, hround⟩ | ⟨-, -, hround⟩ |
      ⟨hnone, t'', page, -, -, hround, hchanges, -, hcard, htables⟩
    · rw [hround, Except.ok.injEq] at hok
      subst hok
      exact ⟨ht, by rw [rangeNeed_mapped ht hle he, hiff]⟩
    · simp [hround] at hok
    · rw [hround, Except.ok.injEq] at hok
      subst hok
      have hsucc := rangeNeed_succ hle hlt hnone hchanges.outside htables
      exact ⟨hchanges.sound, by rw [← hiff]; omega⟩
  · obtain ⟨ht, hiff⟩ := ht
    have hle : i ≤ last := hin.2.2
    rcases mapRangeRound_cases ht hlow hpd hdir (huser i hin) with
      ⟨-, hround⟩ | ⟨hnone, hshort, -⟩ | ⟨-, t'', page, -, -, hround, -⟩
    · simp [hround] at herror
    · have hcost : t.pageCost dir i ≤ t.rangeNeed dir i last := by
        rw [Paging.rangeNeed, Paging.pageCost, card_unmapped_eq hle, if_pos hnone,
          rangeTables_eq hle]
        split_ifs
        · have hpos := Finset.card_pos.2
            (Finset.insert_nonempty (i / 1024) (t.rangeTables dir (i + 1) last))
          omega
        · omega
      rw [← hiff]
      omega
    · simp [hround] at herror

omit hs in
lemma rangeNeed_le_rangeCost (s : Paging) (dir first last : Nat) :
    s.rangeNeed dir first last ≤ s.rangeCost dir first last := by
  refine Nat.add_le_add ?_ (Finset.card_le_card fun d hd => ?_)
  · rw [← Nat.card_Icc]
    exact Finset.card_filter_le _ _
  · obtain ⟨hd, hnone⟩ := Finset.mem_filter.1 hd
    obtain ⟨n, hn, rfl⟩ := Finset.mem_image.1 hd
    rw [Finset.mem_Icc] at hn
    exact Finset.mem_filter.2 ⟨Finset.mem_Icc.2 ⟨by omega, by omega⟩, hnone⟩

lemma mapUserPagesForRange_short (hlow : ∀ page < 256, base.Used page) (hpd : pd &&& pageMask ≠ 0)
    (hdir : frameOf pd = dir) (hlength : length ≠ 0) (huser : UserPage (pageNo start))
    (hnone : s.userPte dir (pageNo start) = none)
    (hcost : s.memoryBitmap.freePages.card < s.pageCost dir (pageNo start)) :
    mapUserPagesForRange s pd start length = (s, false) := by
  have hround : mapRangeRound pd s (pageAddress (pageNo start)) = .error s := by
    rcases mapRangeRound_cases hs hlow hpd hdir huser with
      ⟨⟨e, he⟩, -⟩ | ⟨-, -, hround⟩ | ⟨-, t, page, -, -, -, -, -, hcard, -⟩
    · rw [hnone] at he
      cases he
    · exact hround
    · omega
  have hcount : max (pageNo start) (pageNo (start + length - 1)) + 1 - pageNo start =
      max (pageNo start) (pageNo (start + length - 1)) - pageNo start + 1 := by omega
  rw [mapUserPagesForRange, forUserPages_eq hlength, hcount, List.range'_succ, List.foldlM_cons,
    hround]
  rfl

end

end

end NeuroSpark
