import NeuroSpark.Mem.ReadOnly

/-!
# Memory calls that fail

`SYS_MMAP`, `SYS_MUNMAP`, `SYS_MPROTECT`, `SYS_BRK` and `SYS_SBRK` go through the pages of a range
and stop at the first one that they cannot map, unmap or protect. What was done to the pages before
it stays as it is, so that a call that fails changes nothing just when it stops before its first
change.
-/

namespace NeuroSpark

/-! ### Edits of a range -/

/-- What a call does to the pages of a range. -/
inductive RangeEdit
  | map
  | unmap
  | protect (writable : Bool)

def RangeEdit.run (s : Paging) (pd start length : BitVec 32) : RangeEdit → Paging × Bool
  | .map => mapUserPagesForRange s pd start length
  | .unmap => unmapUserPagesForRange s pd start length
  | .protect writable => setUserWritableForRange s pd start length writable

/-- The pages of a range up to `n` are mapped. -/
def MappedBefore (s : Paging) (dir : Nat) (start length : BitVec 32) (n : Nat) : Prop :=
  ∀ k, InRange start length k → k < n → (s.userPte dir k).isSome = true

/-- The edit goes through: there is memory for all that is missing, or all is mapped. -/
def RangeEdit.GoesThrough (s : Paging) (dir : Nat) (start length : BitVec 32) : RangeEdit → Prop
  | .map => length = 0 ∨
      s.rangeNeed dir (pageNo start) (max (pageNo start) (pageNo (start + length - 1))) ≤
        s.memoryBitmap.freePages.card
  | _ => ∀ n, InRange start length n → (s.userPte dir n).isSome = true

/-- The edit stops before it has changed anything: at the first page that is to be mapped, at the
first page of all, or after pages that are protected as they should be. -/
def RangeEdit.StopsAtOnce (s : Paging) (dir : Nat) (start length : BitVec 32) : RangeEdit → Prop
  | .map => ∀ n, InRange start length n → MappedBefore s dir start length n →
      s.userPte dir n = none → s.memoryBitmap.freePages.card < s.pageCost dir n
  | .unmap => s.userPte dir (pageNo start) = none
  | .protect writable => ∀ n, InRange start length n → MappedBefore s dir start length n →
      ∀ e, s.userPte dir n = some e → withWritable e writable = e

/-- The entries of all pages and the bitmap are the same. -/
def SamePages (dir : Nat) (s s' : Paging) : Prop :=
  (∀ n < 1048576, s'.userPte dir n = s.userPte dir n) ∧ s'.memoryBitmap = s.memoryBitmap

section

variable {base : Pmm} {s t : Paging} {dir : Nat} {pd start length : BitVec 32}
  {round : Paging → BitVec 32 → Except Paging Paging}

lemma exists_first (P : Nat → Prop) (h : ∃ n, InRange start length n ∧ P n) :
    ∃ n, InRange start length n ∧ P n ∧ ∀ k, InRange start length k → k < n → ¬ P k := by
  classical
  have hmin := Nat.find_spec h
  exact ⟨Nat.find h, hmin.1, hmin.2, fun k hk hlt hP => Nat.find_min h hlt ⟨hk, hP⟩⟩

lemma forUserPages_stops (round : Paging → BitVec 32 → Except Paging Paging) {p : Nat}
    (hp : InRange start length p) {I : Nat → Paging → Prop} (hs : I (pageNo start) s)
    (hround : ∀ n, InRange start length n → n < p → ∀ t, I n t →
      ∃ t', round t (pageAddress n) = .ok t' ∧ I (n + 1) t')
    (hstop : ∀ t, I p t → round t (pageAddress p) = .error t) :
    I p (forUserPages round s start length).1 ∧ (forUserPages round s start length).2 = false := by
  have hloop := forUserPages_invariant s start round hp.1 (I := fun i t => i ≤ p ∧ I i t) (Q := I p)
    ⟨hp.2.1, hs⟩ (fun i hin t t' ht hok => ?_) fun i hin t t' ht herror => ?_
  · rcases hloop with ⟨-, hle, -⟩ | ⟨hresult, h⟩
    · exact absurd hp.2.2 (by omega)
    · exact ⟨h, hresult⟩
  · obtain ⟨hle, ht⟩ := ht
    rcases hle.eq_or_lt with rfl | hlt
    · simp [hstop t ht] at hok
    · obtain ⟨t'', hok', ht''⟩ := hround i hin hlt t ht
      rw [hok, Except.ok.injEq] at hok'
      subst hok'
      exact ⟨hlt, ht''⟩
  · obtain ⟨hle, ht⟩ := ht
    rcases hle.eq_or_lt with rfl | hlt
    · rw [hstop t ht, Except.error.injEq] at herror
      subst herror
      exact ht
    · obtain ⟨t'', hok', -⟩ := hround i hin hlt t ht
      simp [herror] at hok'

/-- What a loop has done at page `p` stays: the rounds before keep `I`, the one at `p` brings about
`P`, and the later ones keep it. -/
lemma forUserPages_reaches (round : Paging → BitVec 32 → Except Paging Paging) {p : Nat}
    (hp : InRange start length p) {I : Nat → Paging → Prop} {P : Paging → Prop}
    (hs : I (pageNo start) s)
    (hround : ∀ n, InRange start length n → n < p → ∀ t, I n t →
      ∃ t', round t (pageAddress n) = .ok t' ∧ I (n + 1) t')
    (hreach : ∀ t, I p t → ∃ t', round t (pageAddress p) = .ok t' ∧ P t')
    (hlater : ∀ n, InRange start length n → p < n → ∀ t, P t → ∀ t',
      round t (pageAddress n) = .ok t' ∨ round t (pageAddress n) = .error t' → P t') :
    P (forUserPages round s start length).1 := by
  have hloop := forUserPages_invariant s start round hp.1 (Q := P)
    (I := fun i t => (i ≤ p → I i t) ∧ (p < i → P t))
    ⟨fun _ => hs, fun hlt => absurd hlt (not_lt.2 hp.2.1)⟩
    (fun i hin t t' ht hok => ?_) fun i hin t t' ht herror => ?_
  · rcases hloop with ⟨-, -, h⟩ | ⟨-, h⟩
    · exact h (Nat.lt_succ_of_le hp.2.2)
    · exact h
  · rcases lt_trichotomy i p with hlt | rfl | hgt
    · obtain ⟨t'', hok', ht''⟩ := hround i hin hlt t (ht.1 hlt.le)
      rw [hok, Except.ok.injEq] at hok'
      subst hok'
      exact ⟨fun _ => ht'', fun hlt' => absurd hlt' (not_lt.2 hlt)⟩
    · obtain ⟨t'', hok', ht''⟩ := hreach t (ht.1 le_rfl)
      rw [hok, Except.ok.injEq] at hok'
      subst hok'
      exact ⟨fun hle => absurd hle (Nat.not_succ_le_self i), fun _ => ht''⟩
    · exact ⟨fun hle => absurd hle (by omega),
        fun _ => hlater i hin hgt t (ht.2 hgt) t' (Or.inl hok)⟩
  · rcases lt_trichotomy i p with hlt | rfl | hgt
    · obtain ⟨t'', hok', -⟩ := hround i hin hlt t (ht.1 hlt.le)
      simp [herror] at hok'
    · obtain ⟨t'', hok', -⟩ := hreach t (ht.1 le_rfl)
      simp [herror] at hok'
    · exact hlater i hin hgt t (ht.2 hgt) t' (Or.inr herror)

lemma rangeNeed_of_mapped (hs : s.Sound base dir) {first last : Nat}
    (h : ∀ n, first ≤ n → n ≤ last → (s.userPte dir n).isSome = true) :
    s.rangeNeed dir first last = 0 := by
  have hpages : ((Finset.Icc first last).filter fun n => s.userPte dir n = none) = ∅ := by
    refine Finset.filter_eq_empty_iff.2 fun n hn => ?_
    rw [Finset.mem_Icc] at hn
    exact Option.isSome_iff_ne_none.1 (h n hn.1 hn.2)
  have htables : s.rangeTables dir first last = ∅ := by
    refine Finset.filter_eq_empty_iff.2 fun d hd => ?_
    obtain ⟨n, hn, rfl⟩ := Finset.mem_image.1 hd
    rw [Finset.mem_Icc] at hn
    obtain ⟨e, he⟩ := Option.isSome_iff_exists.1 (h n hn.1 hn.2)
    exact tableOf_of_userPte hs he
  rw [Paging.rangeNeed, hpages, htables, Finset.card_empty]

section

variable {n k : Nat} {t' : Paging}

lemma round_other {r : Except Paging Paging} (lost : Nat → Prop) (ht : t.Sound base dir)
    (hr : r = .ok t ∨ r = .error t ∨ ∃ t'', r = .ok t'' ∧ t.Changes base dir (· = k) lost t'')
    (hn : n < 1048576) (hne : n ≠ k) (h : r = .ok t' ∨ r = .error t') :
    t'.Sound base dir ∧ t'.userPte dir n = t.userPte dir n := by
  rcases hr with rfl | rfl | ⟨t'', rfl, hchanges⟩
  · obtain rfl := Except.ok.inj (h.resolve_right fun heq => nomatch heq)
    exact ⟨ht, rfl⟩
  · obtain rfl := Except.error.inj (h.resolve_left fun heq => nomatch heq)
    exact ⟨ht, rfl⟩
  · obtain rfl := Except.ok.inj (h.resolve_right fun heq => nomatch heq)
    exact ⟨hchanges.sound, hchanges.outside n hn hne⟩

lemma mapRangeRound_other (ht : t.Sound base dir) (hlow : ∀ page < 256, base.Used page)
    (hpd : pd &&& pageMask ≠ 0) (hdir : frameOf pd = dir) (hk : UserPage k) (hn : n < 1048576)
    (hne : n ≠ k) (h : mapRangeRound pd t (pageAddress k) = .ok t' ∨
      mapRangeRound pd t (pageAddress k) = .error t') :
    t'.Sound base dir ∧ t'.userPte dir n = t.userPte dir n := by
  refine round_other (fun _ => False) ht ?_ hn hne h
  rcases mapRangeRound_cases ht hlow hpd hdir hk with
    ⟨-, hround⟩ | ⟨-, -, hround⟩ | ⟨-, t'', page, -, -, hround, hchanges, -⟩
  · exact Or.inl hround
  · exact Or.inr (Or.inl hround)
  · exact Or.inr (Or.inr ⟨t'', hround, hchanges⟩)

lemma unmapRound_other (ht : t.Sound base dir) (hlow : ∀ page < 256, base.Used page)
    (hpd : pd &&& pageMask ≠ 0) (hdir : frameOf pd = dir) (hk : k < 1048576) (hn : n < 1048576)
    (hne : n ≠ k) (h : untilFails (fun s va => unmapUserPage s pd va) t (pageAddress k) = .ok t' ∨
      untilFails (fun s va => unmapUserPage s pd va) t (pageAddress k) = .error t') :
    t'.Sound base dir ∧ t'.userPte dir n = t.userPte dir n := by
  refine round_other (· = k) ht ?_ hn hne h
  rcases unmapRound_cases ht hlow hpd hdir hk with
    ⟨-, hround⟩ | ⟨e, t'', -, hround, hchanges, -⟩
  · exact Or.inr (Or.inl hround)
  · exact Or.inr (Or.inr ⟨t'', hround, hchanges⟩)

lemma setWritableRound_other (ht : t.Sound base dir) (hpd : pd &&& pageMask ≠ 0)
    (hdir : frameOf pd = dir) (hk : k < 1048576) (hn : n < 1048576) (hne : n ≠ k) {writable : Bool}
    (h : untilFails (fun s va => setUserPageWritable s pd va writable) t (pageAddress k) = .ok t' ∨
      untilFails (fun s va => setUserPageWritable s pd va writable) t (pageAddress k) =
        .error t') :
    t'.Sound base dir ∧ t'.userPte dir n = t.userPte dir n := by
  refine round_other (fun _ => False) ht ?_ hn hne h
  rcases setWritableRound_cases ht hpd hdir hk writable with
    ⟨-, hround⟩ | ⟨e, t'', -, hround, hchanges, -⟩
  · exact Or.inr (Or.inl hround)
  · exact Or.inr (Or.inr ⟨t'', hround, hchanges⟩)

end

section

variable (hs : s.Sound base dir) (hlow : ∀ page < 256, base.Used page)
include hs hlow

lemma mapUserPagesForRange_iff (hpd : pd &&& pageMask ≠ 0) (hdir : frameOf pd = dir)
    (huser : ∀ n, InRange start length n → UserPage n) :
    (mapUserPagesForRange s pd start length).2 = true ↔
      RangeEdit.map.GoesThrough s dir start length := by
  rw [RangeEdit.GoesThrough]
  by_cases hlength : length = 0
  · subst hlength
    rw [mapUserPagesForRange, forUserPages_zero]
    exact iff_of_true rfl (Or.inl rfl)
  · rw [or_iff_right hlength, mapUserPagesForRange_ok_iff hs hlow hpd hdir hlength huser]

/-- When memory is short the pages are as they were just when it is short for the first of them. -/
lemma mapUserPagesForRange_same_iff (hpd : pd &&& pageMask ≠ 0) (hdir : frameOf pd = dir)
    (huser : ∀ n, InRange start length n → UserPage n)
    (hfail : (mapUserPagesForRange s pd start length).2 = false) :
    SamePages dir s (mapUserPagesForRange s pd start length).1 ↔
      RangeEdit.map.StopsAtOnce s dir start length := by
  have hunmapped : ∃ n, InRange start length n ∧ s.userPte dir n = none := by
    have hnot : ¬ RangeEdit.map.GoesThrough s dir start length := by
      rw [← mapUserPagesForRange_iff hs hlow hpd hdir huser, hfail]
      exact Bool.false_ne_true
    by_contra hall
    refine hnot (or_iff_not_imp_left.2 fun hlength => ?_)
    rw [rangeNeed_of_mapped hs fun n hn hn' => Option.isSome_iff_ne_none.2 fun hnone =>
      hall ⟨n, ⟨hlength, hn, hn'⟩, hnone⟩]
    exact Nat.zero_le _
  obtain ⟨p, hp, hnone, hfirst⟩ := exists_first _ hunmapped
  have hbefore : MappedBefore s dir start length p := fun k hk hlt =>
    Option.isSome_iff_ne_none.2 (hfirst k hk hlt)
  -- the pages before the first that is missing are passed over
  have hskip : ∀ n, InRange start length n → n < p → ∀ t, t = s →
      ∃ t', mapRangeRound pd t (pageAddress n) = .ok t' ∧ t' = s := by
    rintro n hn hlt t rfl
    rcases mapRangeRound_cases hs hlow hpd hdir (huser n hn) with
      ⟨-, hround⟩ | ⟨hnone', -⟩ | ⟨hnone', -⟩
    · exact ⟨t, hround, rfl⟩
    · exact absurd hnone' (hfirst n hn hlt)
    · exact absurd hnone' (hfirst n hn hlt)
  constructor
  · intro hsame n hn hmapped hn0
    obtain rfl : n = p := by
      rcases lt_trichotomy n p with hlt | heq | hgt
      · exact absurd hn0 (hfirst n hn hlt)
      · exact heq
      · exact absurd hnone (Option.isSome_iff_ne_none.1 (hmapped p hp hgt))
    by_contra henough
    have hreached := forUserPages_reaches (mapRangeRound pd) hp (I := fun _ t => t = s)
      (P := fun t => t.Sound base dir ∧ (t.userPte dir n).isSome = true) rfl hskip
      (fun t ht => by
        subst ht
        rcases mapRangeRound_cases hs hlow hpd hdir (huser n hp) with
          ⟨⟨e, he⟩, -⟩ | ⟨-, hshort, -⟩ | ⟨-, t', page, -, -, hround, hchanges, hpte, -⟩
        · rw [hnone] at he
          cases he
        · exact absurd hshort henough
        · exact ⟨t', hround, hchanges.sound, by rw [hpte]; rfl⟩)
      fun k hk hlt t ht t' ht' => by
        obtain ⟨hsound, hpte⟩ :=
          mapRangeRound_other ht.1 hlow hpd hdir (huser k hk) hp.lt hlt.ne ht'
        exact ⟨hsound, hpte ▸ ht.2⟩
    have hold := hsame.1 n hp.lt
    rw [hnone] at hold
    rw [← mapUserPagesForRange, hold] at hreached
    exact Bool.false_ne_true hreached.2
  · intro hstop
    have hstopped := forUserPages_stops (mapRangeRound pd) hp (I := fun _ t => t = s) rfl hskip
      fun t ht => by
        subst ht
        have hshort := hstop p hp hbefore hnone
        rcases mapRangeRound_cases hs hlow hpd hdir (huser p hp) with
          ⟨⟨e, he⟩, -⟩ | ⟨-, -, hround⟩ | ⟨-, t', page, -, -, -, -, -, hcard, -⟩
        · rw [hnone] at he
          cases he
        · exact hround
        · omega
    rw [mapUserPagesForRange, hstopped.1]
    exact ⟨fun _ _ => rfl, rfl⟩

/-! ### Unmapping and protecting -/

/-- The entries from page `n` of a range on are still those of `s`. -/
def Untouched (base : Pmm) (dir : Nat) (start length : BitVec 32) (s : Paging) (n : Nat)
    (t : Paging) : Prop :=
  t.Sound base dir ∧ ∀ k, InRange start length k → n ≤ k → t.userPte dir k = s.userPte dir k

omit hs hlow in
lemma Untouched.refl (hs : s.Sound base dir) (n : Nat) : Untouched base dir start length s n s :=
  ⟨hs, fun _ _ _ => rfl⟩

omit hs hlow in
lemma Untouched.step {n : Nat} {t' : Paging} {lost : Nat → Prop}
    (h : Untouched base dir start length s n t) (hchanges : t.Changes base dir (· = n) lost t') :
    Untouched base dir start length s (n + 1) t' :=
  ⟨hchanges.sound, fun k hk hle =>
    (hchanges.outside k hk.lt (by omega)).trans (h.2 k hk (by omega))⟩

omit hs hlow in
lemma inRange_start (hlength : length ≠ 0) : InRange start length (pageNo start) :=
  ⟨hlength, le_rfl, le_max_left _ _⟩

omit hs hlow in
lemma ne_zero_of_fails (h : (forUserPages round s start length).2 = false) : length ≠ 0 := by
  rintro rfl
  cases h

omit hs hlow in
lemma exists_first_unmapped (h : ¬ ∀ n, InRange start length n → (s.userPte dir n).isSome = true) :
    ∃ p, InRange start length p ∧ s.userPte dir p = none ∧ MappedBefore s dir start length p := by
  have hunmapped : ∃ n, InRange start length n ∧ s.userPte dir n = none := by
    by_contra hall
    exact h fun n hn => Option.isSome_iff_ne_none.2 fun hnone => hall ⟨n, hn, hnone⟩
  obtain ⟨p, hp, hnone, hfirst⟩ := exists_first _ hunmapped
  exact ⟨p, hp, hnone, fun k hk hlt => Option.isSome_iff_ne_none.2 (hfirst k hk hlt)⟩

lemma unmapUserPagesForRange_iff (hpd : pd &&& pageMask ≠ 0) (hdir : frameOf pd = dir) :
    (unmapUserPagesForRange s pd start length).2 = true ↔
      ∀ n, InRange start length n → (s.userPte dir n).isSome = true := by
  constructor
  · intro hok
    by_contra hnot
    obtain ⟨p, hp, hnone, hbefore⟩ := exists_first_unmapped hnot
    have hstopped := forUserPages_stops (untilFails fun s va => unmapUserPage s pd va) hp
      (I := Untouched base dir start length s) (Untouched.refl hs _) (fun n hn hlt t ht => ?_)
      fun t ht => ?_
    · rw [← unmapUserPagesForRange, hok] at hstopped
      cases hstopped.2
    · obtain ⟨e, he⟩ := Option.isSome_iff_exists.1 (hbefore n hn hlt)
      rcases unmapRound_cases ht.1 hlow hpd hdir hn.lt with
        ⟨hnone', -⟩ | ⟨e', t', -, hround, hch, -⟩
      · rw [ht.2 n hn le_rfl, he] at hnone'
        cases hnone'
      · exact ⟨t', hround, ht.step hch⟩
    · rcases unmapRound_cases ht.1 hlow hpd hdir hp.lt with ⟨-, hround⟩ | ⟨e, t', he, -⟩
      · exact hround
      · rw [ht.2 p hp le_rfl, hnone] at he
        cases he
  · intro hall
    by_contra hfail
    obtain ⟨n, hn, hnone⟩ := (unmapUserPagesForRange_spec start length hs hlow hpd hdir).2.2
      (by simpa using hfail)
    have hsome := hall n hn
    rw [hnone] at hsome
    cases hsome

/-- A page that was unmapped is lost, whatever comes after it. -/
lemma unmapUserPagesForRange_same_iff (hpd : pd &&& pageMask ≠ 0) (hdir : frameOf pd = dir)
    (hfail : (unmapUserPagesForRange s pd start length).2 = false) :
    SamePages dir s (unmapUserPagesForRange s pd start length).1 ↔
      RangeEdit.unmap.StopsAtOnce s dir start length := by
  have hp : InRange start length (pageNo start) := inRange_start (ne_zero_of_fails hfail)
  have hnobefore : ∀ {P : Prop} n, InRange start length n → n < pageNo start → P := fun n hn hlt =>
    absurd hn.2.1 (not_le.2 hlt)
  constructor
  · intro hsame
    by_contra hsome
    obtain ⟨e, he⟩ := Option.ne_none_iff_exists'.1 hsome
    have hreached := forUserPages_reaches (untilFails fun s va => unmapUserPage s pd va) hp
      (I := fun _ t => t = s)
      (P := fun t => t.Sound base dir ∧ t.userPte dir (pageNo start) = none) rfl
      (fun n hn hlt => hnobefore n hn hlt) (fun t ht => ?_) fun k hk hlt t ht t' ht' => ?_
    · rw [← unmapUserPagesForRange, hsame.1 _ hp.lt, he] at hreached
      cases hreached.2
    · subst ht
      rcases unmapRound_cases hs hlow hpd hdir hp.lt with
        ⟨hnone, -⟩ | ⟨e', t', -, hround, hch, hpte⟩
      · rw [he] at hnone
        cases hnone
      · exact ⟨t', hround, hch.sound, hpte⟩
    · obtain ⟨hsound, hpte⟩ := unmapRound_other ht.1 hlow hpd hdir hk.lt hp.lt hlt.ne ht'
      exact ⟨hsound, hpte.trans ht.2⟩
  · intro hnone
    have hstopped := forUserPages_stops (untilFails fun s va => unmapUserPage s pd va) hp
      (I := fun _ t => t = s) rfl (fun n hn hlt => hnobefore n hn hlt) fun t ht => ?_
    · rw [unmapUserPagesForRange, hstopped.1]
      exact ⟨fun _ _ => rfl, rfl⟩
    · subst ht
      rcases unmapRound_cases hs hlow hpd hdir hp.lt with ⟨-, hround⟩ | ⟨e, t', he, -⟩
      · exact hround
      · rw [show t.userPte dir (pageNo start) = none from hnone] at he
        cases he

omit hs hlow in
lemma setUserWritableForRange_iff (hs : s.Sound base dir) (hpd : pd &&& pageMask ≠ 0)
    (hdir : frameOf pd = dir) (writable : Bool) :
    (setUserWritableForRange s pd start length writable).2 = true ↔
      ∀ n, InRange start length n → (s.userPte dir n).isSome = true := by
  have hspec := setUserWritableForRange_spec start length hs hpd hdir writable
  constructor
  · intro hok n hn
    obtain ⟨e, he, -⟩ := hspec.2.1 hok n hn
    rw [he]
    rfl
  · intro hall
    by_contra hfail
    obtain ⟨n, hn, hnone⟩ := hspec.2.2 (by simpa using hfail)
    have hsome := hall n hn
    rw [hnone] at hsome
    cases hsome

omit hs hlow in
lemma memoryBitmap_setWritableRound (hpd : pd &&& pageMask ≠ 0) (hdir : frameOf pd = dir) {n : Nat}
    (hn : n < 1048576) {writable : Bool} {s' : Paging}
    (h : untilFails (fun s va => setUserPageWritable s pd va writable) s (pageAddress n) = .ok s') :
    s'.memoryBitmap = s.memoryBitmap := by
  rw [untilFails, setUserPageWritable_eq hpd hdir hn writable] at h
  cases he : s.userPte dir n with
  | none => simp [he] at h
  | some e =>
    simp only [he, if_true, Except.ok.injEq] at h
    rw [← h, Paging.memoryBitmap_setWord]

omit hs hlow in
/-- The flags that were set stay, unless they were set before. -/
lemma setUserWritableForRange_same_iff (hs : s.Sound base dir) (hpd : pd &&& pageMask ≠ 0)
    (hdir : frameOf pd = dir) (writable : Bool)
    (hfail : (setUserWritableForRange s pd start length writable).2 = false) :
    SamePages dir s (setUserWritableForRange s pd start length writable).1 ↔
      (RangeEdit.protect writable).StopsAtOnce s dir start length := by
  have hnot : ¬ ∀ n, InRange start length n → (s.userPte dir n).isSome = true := by
    rw [← setUserWritableForRange_iff hs hpd hdir writable, hfail]
    exact Bool.false_ne_true
  constructor
  · intro hsame n hn hbefore e he
    by_contra hne
    have hreached := forUserPages_reaches
      (untilFails fun s va => setUserPageWritable s pd va writable) hn
      (I := Untouched base dir start length s)
      (P := fun t => t.Sound base dir ∧ t.userPte dir n = some (withWritable e writable))
      (Untouched.refl hs _) (fun k hk hlt t ht => ?_) (fun t ht => ?_)
      fun k hk hlt t ht t' ht' => ?_
    · rw [← setUserWritableForRange, hsame.1 n hn.lt, he, Option.some.injEq] at hreached
      exact hne hreached.2.symm
    · obtain ⟨e', he'⟩ := Option.isSome_iff_exists.1 (hbefore k hk hlt)
      rcases setWritableRound_cases ht.1 hpd hdir hk.lt writable with
        ⟨hnone, -⟩ | ⟨-, t', -, hround, hch, -⟩
      · rw [ht.2 k hk le_rfl, he'] at hnone
        cases hnone
      · exact ⟨t', hround, ht.step hch⟩
    · rcases setWritableRound_cases ht.1 hpd hdir hn.lt writable with
        ⟨hnone, -⟩ | ⟨e', t', he', hround, hch, hpte⟩
      · rw [ht.2 n hn le_rfl, he] at hnone
        cases hnone
      · rw [ht.2 n hn le_rfl, he, Option.some.injEq] at he'
        exact ⟨t', hround, hch.sound, he' ▸ hpte⟩
    · obtain ⟨hsound, hpte⟩ := setWritableRound_other ht.1 hpd hdir hk.lt hn.lt hlt.ne ht'
      exact ⟨hsound, hpte.trans ht.2⟩
  · intro hset
    obtain ⟨p, hp, hnone, hbefore⟩ := exists_first_unmapped hnot
    have hstopped := forUserPages_stops
      (untilFails fun s va => setUserPageWritable s pd va writable) hp
      (I := fun _ t => t.Sound base dir ∧ SamePages dir s t) ⟨hs, fun _ _ => rfl, rfl⟩
      (fun n hn hlt t ht => ?_) fun t ht => ?_
    · exact hstopped.1.2
    · obtain ⟨ht, hpages, hbits⟩ := ht
      obtain ⟨e, he⟩ := Option.isSome_iff_exists.1 (hbefore n hn hlt)
      rcases setWritableRound_cases ht hpd hdir hn.lt writable with
        ⟨hnone', -⟩ | ⟨e', t', he', hround, hch, hpte⟩
      · rw [hpages n hn.lt, he] at hnone'
        cases hnone'
      · rw [hpages n hn.lt, he, Option.some.injEq] at he'
        subst he'
        refine ⟨t', hround, hch.sound, fun k hk => ?_,
          (memoryBitmap_setWritableRound hpd hdir hn.lt hround).trans hbits⟩
        -- the entry has the flag already
        have hsame := hset n hn (fun j hj hjn => hbefore j hj (hjn.trans hlt)) e he
        by_cases hkn : k = n
        · rw [hkn, hpte, hsame, he]
        · rw [hch.outside k hk hkn, hpages k hk]
    · rcases setWritableRound_cases ht.1 hpd hdir hp.lt writable with ⟨-, hround⟩ | ⟨e, t', he, -⟩
      · exact hround
      · rw [ht.2.1 p hp.lt, hnone] at he
        cases he

lemma RangeEdit.run_iff (hpd : pd &&& pageMask ≠ 0) (hdir : frameOf pd = dir) (edit : RangeEdit)
    (huser : edit = .map → ∀ n, InRange start length n → UserPage n) :
    (edit.run s pd start length).2 = true ↔ edit.GoesThrough s dir start length := by
  cases edit with
  | map => exact mapUserPagesForRange_iff hs hlow hpd hdir (huser rfl)
  | unmap => exact unmapUserPagesForRange_iff hs hlow hpd hdir
  | protect writable => exact setUserWritableForRange_iff hs hpd hdir writable

lemma RangeEdit.run_same_iff (hpd : pd &&& pageMask ≠ 0) (hdir : frameOf pd = dir)
    (edit : RangeEdit) (huser : edit = .map → ∀ n, InRange start length n → UserPage n)
    (hfail : (edit.run s pd start length).2 = false) :
    SamePages dir s (edit.run s pd start length).1 ↔ edit.StopsAtOnce s dir start length := by
  cases edit with
  | map => exact mapUserPagesForRange_same_iff hs hlow hpd hdir (huser rfl) hfail
  | unmap => exact unmapUserPagesForRange_same_iff hs hlow hpd hdir hfail
  | protect writable => exact setUserWritableForRange_same_iff hs hpd hdir writable hfail

end

end

/-! ### Calls -/

/-- The calls that change what a task has mapped. -/
inductive AreaCall
  | mapping (c : MmapCall)
  | heap (c : BreakCall)

def areaStep (m : TaskMemory) : AreaCall → TaskMemory × BitVec 32
  | .mapping c => mmapStep m c
  | .heap c => breakStep m c

def ReportsFailure (m : TaskMemory) (c : AreaCall) : Prop :=
  match c with
  | .mapping (.mmap _ _ _) => ¬ MmapSucceeds (areaStep m c).2
  | .mapping _ => (areaStep m c).2 = errBadPointer
  | .heap (.brk requested) => (areaStep m c).2 ≠ requested
  | .heap (.sbrk _) => (areaStep m c).2 = errBadPointer

/-- The entries of the task's pages, its break, where its next mapping goes, and the bitmap. -/
structure MemoryUnchanged (m m' : TaskMemory) : Prop where
  pages : ∀ n < 1048576, m'.userPte n = m.userPte n
  bitmap : m'.paging.memoryBitmap = m.paging.memoryBitmap
  base : m'.taskBrkBase = m.taskBrkBase
  current : m'.taskBrkCurrent = m.taskBrkCurrent
  next : m'.taskMmapNext = m.taskMmapNext

/-- What a call does once it has made its checks. -/
inductive AreaPlan
  | refused
  | nothing
  | edit (e : RangeEdit) (start length : BitVec 32)

/-- Two of the calls leave the break of a task alone that has none yet. -/
def AreaCall.withDefaults (m : TaskMemory) : AreaCall → TaskMemory
  | .mapping (.munmap _ _) => m
  | .mapping (.mprotect _ _ _) => m
  | _ => ensureTaskIdentityDefaults m

def AreaCall.plan (m : TaskMemory) : AreaCall → AreaPlan
  | .mapping (.mmap addr len _) =>
      let start := mmapBase (ensureTaskIdentityDefaults m) addr
      if len = 0 ∨ OutsideMmapArea start (alignUpPage len) then .refused
      else .edit .map start (alignUpPage len)
  | .mapping (.munmap addr len) =>
      if len = 0 ∨ OutsideMmapArea (pageFloor addr) (alignUpPage len) then .refused
      else .edit .unmap (pageFloor addr) (alignUpPage len)
  | .mapping (.mprotect addr len prot) =>
      if len = 0 then .refused
      else .edit (.protect (prot &&& protWrite ≠ 0)) (pageFloor addr) (alignUpPage len)
  | .heap c =>
      let current := (ensureTaskIdentityDefaults m).taskBrkCurrent
      match breakRequest (ensureTaskIdentityDefaults m) c with
      | none => .refused
      | some r =>
        if current < r then .edit .map current (r - current)
        else if r < current then .edit .unmap r (current - r)
        else .nothing

/-- The call succeeds, or fails before it has changed anything. -/
def FailsClean (m : TaskMemory) (c : AreaCall) : Prop :=
  match c.plan m with
  | .refused => c.withDefaults m = m
  | .nothing => True
  | .edit e start length =>
      e.GoesThrough m.paging (frameOf m.pageDir) start length ∨
        c.withDefaults m = m ∧ e.StopsAtOnce m.paging (frameOf m.pageDir) start length

section

variable {background : Pmm} {m : TaskMemory}

/-- How a call carries out its plan. -/
def CarriesOut (m : TaskMemory) (c : AreaCall) : AreaPlan → Prop
  | .refused => ReportsFailure m c ∧ (areaStep m c).1 = c.withDefaults m
  | .nothing => ¬ ReportsFailure m c
  | .edit e start length =>
      (e = .map → ∀ n, InRange start length n → UserPage n) ∧
        (ReportsFailure m c ↔ (e.run m.paging m.pageDir start length).2 = false) ∧
        ((e.run m.paging m.pageDir start length).2 = false →
          (areaStep m c).1 =
            { c.withDefaults m with paging := (e.run m.paging m.pageDir start length).1 })

section

variable (hm : m.Ready background)
include hm

lemma carriesOut_mmap (addr len prot : BitVec 32) : CarriesOut m (.mapping (.mmap addr len prot))
      (AreaCall.plan m (.mapping (.mmap addr len prot))) := by
  obtain ⟨hpaging, hdir⟩ := ensureTaskIdentityDefaults_paging m
  have hrefused : ∀ result : BitVec 32, result = errBadPointer ∨ result = errNoSpace →
      ¬ MmapSucceeds result := by
    rintro result (rfl | rfl) h
    · exact h.1 rfl
    · exact h.2 rfl
  rw [AreaCall.plan]
  simp only [CarriesOut, ReportsFailure, areaStep, mmapStep, AreaCall.withDefaults, sysMmap]
  by_cases hlen : len = 0
  · simp only [hlen, if_true, true_or]
    exact ⟨hrefused _ (Or.inl rfl), trivial⟩
  by_cases hout : OutsideMmapArea (mmapBase (ensureTaskIdentityDefaults m) addr) (alignUpPage len)
  · simp only [hlen, hout, if_true, if_false, or_true]
    exact ⟨hrefused _ (Or.inl rfl), trivial⟩
  have huser : ∀ n, InRange (mmapBase (ensureTaskIdentityDefaults m) addr) (alignUpPage len) n →
      UserPage n := fun n hn => userPage_of_inRange hout (mmapBase_aligned _ addr) hn
  simp only [hlen, hout, if_false, or_self, hpaging, hdir, RangeEdit.run]
  have hmapped := mapUserPagesForRange_spec (mmapBase (ensureTaskIdentityDefaults m) addr)
    (alignUpPage len) hm.sound.space hm.sound.low hm.sound.dir rfl huser
  generalize mapUserPagesForRange m.paging m.pageDir
    (mmapBase (ensureTaskIdentityDefaults m) addr) (alignUpPage len) = r at hmapped
  refine ⟨fun _ => huser, ?_, fun hfail => by rw [if_pos hfail]⟩
  by_cases hfail : r.2 = false
  · rw [if_pos hfail]
    exact iff_of_true (hrefused _ (Or.inr rfl)) hfail
  · rw [if_neg hfail]
    have hset := (setUserWritableForRange_iff hmapped.1.sound hm.sound.dir rfl
      (decide (prot &&& protWrite ≠ 0))).2 (hmapped.2 (by simpa using hfail))
    rw [hset, if_neg (by decide)]
    refine iff_of_false (not_not.2 ?_) hfail
    have hmax := (Nat.le_add_right _ _).trans (not_outsideMmapArea hout).2
    constructor
    · intro (heq : mmapBase (ensureTaskIdentityDefaults m) addr = errBadPointer)
      rw [heq] at hmax
      exact absurd hmax (by decide)
    · intro (heq : mmapBase (ensureTaskIdentityDefaults m) addr = errNoSpace)
      rw [heq] at hmax
      exact absurd hmax (by decide)

omit hm in
lemma carriesOut_munmap (m : TaskMemory) (addr len : BitVec 32) :
    CarriesOut m (.mapping (.munmap addr len)) (AreaCall.plan m (.mapping (.munmap addr len))) := by
  have hcodes : okWord ≠ errBadPointer := by decide
  rw [AreaCall.plan]
  simp only [CarriesOut, ReportsFailure, areaStep, mmapStep, AreaCall.withDefaults, sysMunmap]
  by_cases hlen : len = 0
  · simp [hlen]
  by_cases hout : OutsideMmapArea (pageFloor addr) (alignUpPage len)
  · simp [hout]
  simp only [hlen, hout, if_false, or_self, RangeEdit.run]
  generalize unmapUserPagesForRange m.paging m.pageDir (pageFloor addr) (alignUpPage len) = r
  cases r.2 <;> simp [hcodes]

omit hm in
lemma carriesOut_mprotect (m : TaskMemory) (addr len prot : BitVec 32) :
    CarriesOut m (.mapping (.mprotect addr len prot))
      (AreaCall.plan m (.mapping (.mprotect addr len prot))) := by
  have hcodes : okWord ≠ errBadPointer := by decide
  rw [AreaCall.plan]
  simp only [CarriesOut, ReportsFailure, areaStep, mmapStep, AreaCall.withDefaults, sysMprotect]
  by_cases hlen : len = 0
  · simp [hlen]
  simp only [hlen, if_false, RangeEdit.run]
  generalize setUserWritableForRange m.paging m.pageDir (pageFloor addr) (alignUpPage len)
    (decide (prot &&& protWrite ≠ 0)) = r
  cases r.2 <;> simp [hcodes]

lemma breakStep_fails {c : BreakCall} {r : BitVec 32}
    (hrequest : breakRequest (ensureTaskIdentityDefaults m) c = some r)
    (hmove : r = (ensureTaskIdentityDefaults m).taskBrkCurrent →
      (moveBreak (ensureTaskIdentityDefaults m) r).2 = true) :
    ReportsFailure m (.heap c) ↔ (moveBreak (ensureTaskIdentityDefaults m) r).2 = false := by
  obtain ⟨hready, hbase⟩ := hm.ensure
  have hbounds := (hready.bounds.resolve_left (by rw [hbase]; decide)).2
  cases c with
  | brk requested =>
    simp only [breakRequest] at hrequest
    split_ifs at hrequest with hcheck
    rw [Option.some.injEq] at hrequest
    subst hrequest
    rw [not_or] at hcheck
    simp only [ReportsFailure, areaStep, breakStep, sysBrk, if_neg hcheck.1, if_neg hcheck.2]
    cases hr : (moveBreak (ensureTaskIdentityDefaults m) requested).2 with
    | true => simp
    | false =>
      simp only [Bool.false_eq_true, if_false, iff_true]
      rintro heq
      rw [hmove heq.symm] at hr
      cases hr
  | sbrk increment =>
    simp only [breakRequest] at hrequest
    split_ifs at hrequest with hcheck
    rw [Option.some.injEq] at hrequest
    subst hrequest
    rw [not_or] at hcheck
    simp only [ReportsFailure, areaStep, breakStep, sysSbrk, if_neg hcheck.1, if_neg hcheck.2]
    cases hr : (moveBreak (ensureTaskIdentityDefaults m)
        ((ensureTaskIdentityDefaults m).taskBrkCurrent + increment)).2 with
    | true =>
      simp only [if_true, Bool.true_eq_false, iff_false]
      intro heq
      have hle := hbounds.2
      rw [heq] at hle
      exact absurd hle (by decide)
    | false => simp

lemma breakStep_refused {c : BreakCall}
    (hrequest : breakRequest (ensureTaskIdentityDefaults m) c = none) :
    ReportsFailure m (.heap c) := by
  obtain ⟨hready, hbase⟩ := hm.ensure
  have hbounds := (hready.bounds.resolve_left (by rw [hbase]; decide)).2
  cases c with
  | brk requested =>
    simp only [breakRequest] at hrequest
    split_ifs at hrequest with hcheck
    simp only [ReportsFailure, areaStep, breakStep, sysBrk]
    rcases hcheck with hzero | hcheck
    · rw [if_pos hzero, hzero]
      intro (heq : (ensureTaskIdentityDefaults m).taskBrkCurrent = 0)
      rw [heq] at hbounds
      exact absurd hbounds.1 (by decide)
    · have hout : (ensureTaskIdentityDefaults m).taskBrkCurrent ≠ requested := by
        rintro heq
        rw [← heq, hbase] at hcheck
        exact hcheck.elim (fun h => absurd hbounds.1 (not_le.2 h)) fun h =>
          absurd hbounds.2 (not_le.2 h)
      by_cases hzero : requested = 0
      · rwa [if_pos hzero]
      · rwa [if_neg hzero, if_pos hcheck]
  | sbrk increment =>
    simp only [breakRequest] at hrequest
    split_ifs at hrequest with hcheck
    simp only [ReportsFailure, areaStep, breakStep, sysSbrk]
    rcases hcheck with hcheck | hcheck
    · rw [if_pos hcheck]
    · rw [if_pos hcheck, ite_self]

lemma carriesOut_heap (c : BreakCall) : CarriesOut m (.heap c) (AreaCall.plan m (.heap c)) := by
  obtain ⟨hpaging, hdir⟩ := ensureTaskIdentityDefaults_paging m
  obtain ⟨hready, hbase⟩ := hm.ensure
  have hbounds := (hready.bounds.resolve_left (by rw [hbase]; decide)).2
  have hstate : (areaStep m (.heap c)).1 = _ := breakStep_state m c
  rw [AreaCall.plan]
  cases hrequest : breakRequest (ensureTaskIdentityDefaults m) c with
  | none =>
    rw [hrequest] at hstate
    exact ⟨breakStep_refused hm hrequest, hstate⟩
  | some r =>
    rw [hrequest] at hstate
    have hfails := breakStep_fails hm hrequest
    have hle := (breakRequest_le hrequest).2
    simp only [moveBreak, hpaging, hdir] at hstate hfails
    by_cases hgrow : (ensureTaskIdentityDefaults m).taskBrkCurrent < r
    · have hne : r ≠ (ensureTaskIdentityDefaults m).taskBrkCurrent := by
        rintro rfl
        exact BitVec.lt_irrefl _ hgrow
      simp only [if_pos hgrow, CarriesOut, RangeEdit.run] at hstate hfails ⊢
      generalize mapUserPagesForRange m.paging m.pageDir
        (ensureTaskIdentityDefaults m).taskBrkCurrent
        (r - (ensureTaskIdentityDefaults m).taskBrkCurrent) = w at hstate hfails ⊢
      refine ⟨fun _ n hn => ?_, (hfails fun heq => absurd heq hne).trans ?_, fun hw => ?_⟩
      · rw [inRange_sub hgrow] at hn
        exact userPage_of_heap ((Nat.div_le_div_right hbounds.1).trans hn.1)
          (lt_of_lt_of_le hn.2 hle)
      · cases w.2 <;> simp
      · rw [hstate, if_neg (by simp [hw])]
        simp only [AreaCall.withDefaults, hdir]
    by_cases hshrink : r < (ensureTaskIdentityDefaults m).taskBrkCurrent
    · have hne : r ≠ (ensureTaskIdentityDefaults m).taskBrkCurrent := by
        rintro rfl
        exact BitVec.lt_irrefl _ hshrink
      simp only [if_neg hgrow, if_pos hshrink, CarriesOut, RangeEdit.run] at hstate hfails ⊢
      generalize unmapUserPagesForRange m.paging m.pageDir r
        ((ensureTaskIdentityDefaults m).taskBrkCurrent - r) = w at hstate hfails ⊢
      refine ⟨fun h => RangeEdit.noConfusion h, (hfails fun heq => absurd heq hne).trans ?_,
        fun hw => ?_⟩
      · cases w.2 <;> simp
      · rw [hstate, if_neg (by simp [hw])]
        simp only [AreaCall.withDefaults, hdir]
    · simp only [if_neg hgrow, if_neg hshrink, if_true, CarriesOut, implies_true, forall_const]
        at hfails ⊢
      intro hbad
      exact absurd (hfails.1 hbad) (by decide)

lemma carriesOut (c : AreaCall) : CarriesOut m c (c.plan m) := by
  match c with
  | .mapping (.mmap addr len prot) => exact carriesOut_mmap hm addr len prot
  | .mapping (.munmap addr len) => exact carriesOut_munmap m addr len
  | .mapping (.mprotect addr len prot) => exact carriesOut_mprotect m addr len prot
  | .heap c => exact carriesOut_heap hm c

end

lemma withDefaults_eq_or (m : TaskMemory) (c : AreaCall) :
    c.withDefaults m = m ∨ (c.withDefaults m).taskBrkBase ≠ m.taskBrkBase := by
  have hcases : ensureTaskIdentityDefaults m = m ∨
      (ensureTaskIdentityDefaults m).taskBrkBase ≠ m.taskBrkBase := by
    unfold ensureTaskIdentityDefaults
    split_ifs with hzero
    · have hbase : brkDefaultBaseAddr ≠ 0 := by decide
      exact Or.inr (hzero ▸ hbase)
    · exact Or.inl rfl
  match c with
  | .mapping (.mmap _ _ _) => exact hcases
  | .mapping (.munmap _ _) => exact Or.inl rfl
  | .mapping (.mprotect _ _ _) => exact Or.inl rfl
  | .heap _ => exact hcases

/-- A call that fails changes nothing if and only if it fails before its first change. -/
theorem failedCall_unchanged_iff (hm : m.Ready background) (c : AreaCall) :
    (ReportsFailure m c → MemoryUnchanged m (areaStep m c).1) ↔ FailsClean m c := by
  have hdefaults := withDefaults_eq_or m c
  have hcarries := carriesOut hm c
  unfold FailsClean
  cases hplan : c.plan m with
  | refused =>
    rw [hplan] at hcarries
    obtain ⟨hfails, hstate⟩ := hcarries
    refine ⟨fun h => hdefaults.resolve_right fun hne => hne ?_, fun hsame _ => ?_⟩
    · rw [← hstate]
      exact (h hfails).base
    · rw [hstate, hsame]
      exact ⟨fun _ _ => rfl, rfl, rfl, rfl, rfl⟩
  | nothing =>
    rw [hplan] at hcarries
    exact iff_of_true (fun hfails => absurd hfails hcarries) trivial
  | edit e start length =>
    rw [hplan] at hcarries
    obtain ⟨huser, hfails, hstate⟩ := hcarries
    have hspace := hm.sound.space
    have hrun := e.run_iff hspace hm.sound.low hm.sound.dir rfl huser
    have hsame := e.run_same_iff hspace hm.sound.low hm.sound.dir rfl huser
    dsimp only
    rw [← hrun]
    cases hok : (e.run m.paging m.pageDir start length).2 with
    | true =>
      rw [hok] at hfails
      exact iff_of_true (fun h => absurd (hfails.1 h) (by decide)) (Or.inl rfl)
    | false =>
      have hsame := hsame hok
      have hstate := hstate hok
      rw [or_iff_right (by decide)]
      constructor
      · intro h
        have hunchanged := h (hfails.2 hok)
        have heq : c.withDefaults m = m := hdefaults.resolve_right fun hne => hne (by
          rw [← hunchanged.base, hstate])
        rw [hstate, heq] at hunchanged
        exact ⟨heq, hsame.1 ⟨hunchanged.pages, hunchanged.bitmap⟩⟩
      · rintro ⟨heq, hstops⟩ -
        obtain ⟨hpages, hbitmap⟩ := hsame.2 hstops
        rw [hstate, heq]
        exact ⟨hpages, hbitmap, rfl, rfl, rfl⟩

end

lemma freshTask_ready : freshTask.Ready below2MB := ⟨freshTask_sound, Or.inl rfl⟩

/-- The second page of the range is not mapped, and the first is gone. -/
theorem failedCall_changes :
    (sysMmap freshTask 0 0x1000 3).1.Ready below2MB ∧
      ReportsFailure (sysMmap freshTask 0 0x1000 3).1 (.mapping (.munmap 0x50000000 0x2000)) ∧
      ¬ MemoryUnchanged (sysMmap freshTask 0 0x1000 3).1
        (areaStep (sysMmap freshTask 0 0x1000 3).1 (.mapping (.munmap 0x50000000 0x2000))).1 := by
  have hfails : (areaStep (sysMmap freshTask 0 0x1000 3).1
      (.mapping (.munmap 0x50000000 0x2000))).2 = errBadPointer := by decide +kernel
  have hbefore : ((sysMmap freshTask 0 0x1000 3).1.userPte 0x50000).isSome = true := by
    decide +kernel
  have hafter : ((areaStep (sysMmap freshTask 0 0x1000 3).1
      (.mapping (.munmap 0x50000000 0x2000))).1.userPte 0x50000).isSome = false := by
    decide +kernel
  refine ⟨mmapStep_ready freshTask_ready (.mmap 0 0x1000 3), hfails, fun h => ?_⟩
  rw [h.pages 0x50000 (by decide), hbefore] at hafter
  cases hafter

/-- `SYS_MUNMAP` where nothing is mapped. -/
theorem failedCall_unchanged_iff_fresh :
    freshTask.Ready below2MB ∧
      ((ReportsFailure freshTask (.mapping (.munmap 0x50000000 0x2000)) →
          MemoryUnchanged freshTask
            (areaStep freshTask (.mapping (.munmap 0x50000000 0x2000))).1) ↔
        FailsClean freshTask (.mapping (.munmap 0x50000000 0x2000))) :=
  ⟨freshTask_ready, failedCall_unchanged_iff freshTask_ready _⟩

end NeuroSpark
