import NeuroSpark.Mem.Loader
import NeuroSpark.Mem.Loading

/-!
# The bytes of an address space

What a process finds at a user address, and how it changes when pages are mapped and bytes are
written.
-/

namespace NeuroSpark

lemma byteOfWord_zero (k : Nat) : byteOfWord 0 k = 0 := by
  simp [byteOfWord]

lemma byteOfWord_setByteOfWord (w : BitVec 32) {j k : Nat} (hj : j < 4) (v : BitVec 8) :
    byteOfWord (setByteOfWord w k v) j = if j = k then v else byteOfWord w j := by
  have hmask : ∀ t, (0xFF#32).getLsbD t = decide (t < 8) := by
    intro t
    by_cases ht : t < 32
    · revert t
      decide
    · rw [BitVec.getLsbD_of_ge _ _ (not_lt.1 ht)]
      exact (decide_eq_false (by omega)).symm
  apply BitVec.eq_of_getLsbD_eq
  intro i hi
  have hbit : 8 * j + i < 32 := by omega
  have hbyte : i < 32 := by omega
  simp only [byteOfWord, setByteOfWord, BitVec.getLsbD_setWidth, BitVec.getLsbD_ushiftRight,
    BitVec.getLsbD_or, BitVec.getLsbD_and, BitVec.getLsbD_not, BitVec.getLsbD_shiftLeft, hmask]
  by_cases hjk : j = k
  · subst hjk
    have hle : ¬ 8 * j + i < 8 * j := by omega
    simp [hi, hbit, hbyte, hle]
  rw [if_neg hjk]
  by_cases hlt : 8 * j + i < 8 * k
  · simp [hlt, hbit]
  · have hout : 8 ≤ 8 * j + i - 8 * k := by omega
    simp [hlt, hout, hbit, hi]

lemma toNat_and_offset (a : BitVec 32) : (a &&& 0xFFF).toNat = a.toNat % pageSize := by
  exact Nat.and_two_pow_sub_one_eq_mod a.toNat 12

lemma toNat_inPage (e va : BitVec 32) :
    (e &&& pageMask ||| va &&& 0xFFF).toNat = frameOf e * pageSize + va.toNat % pageSize := by
  have hlt : va.toNat % pageSize < 2 ^ 12 := Nat.mod_lt _ (by decide)
  have hor := Nat.two_pow_add_eq_or_of_lt hlt (frameOf e)
  rw [BitVec.toNat_or, toNat_and_pageMask, toNat_and_offset, mul_comm]
  exact hor.symm

lemma frameOf_eq_div (a : BitVec 32) : frameOf a = a.toNat / pageSize := frameOf_eq_pageNo a

lemma wordIndex_congr {a b : BitVec 32} (h : a.toNat % pageSize = b.toNat % pageSize) :
    wordIndex a = wordIndex b ∧ a.toNat % 4 = b.toNat % 4 := by
  unfold pageSize at h
  refine ⟨Fin.ext ?_, by omega⟩
  simp only [wordIndex, Fin.val_ofNat, BitVec.toNat_ushiftRight, Nat.shiftRight_eq_div_pow]
  omega

lemma eq_of_wordIndex {a b : BitVec 32} (hpage : pageNo a = pageNo b)
    (hword : wordIndex a = wordIndex b) (hbyte : a.toNat % 4 = b.toNat % 4) : a = b := by
  have hword := Fin.ext_iff.1 hword
  simp only [wordIndex, Fin.val_ofNat, BitVec.toNat_ushiftRight, Nat.shiftRight_eq_div_pow] at hword
  unfold pageNo pageSize at hpage
  exact BitVec.eq_of_toNat_eq (by omega)

def Paging.userByte (s : Paging) (dir : Nat) (va : BitVec 32) : Option (BitVec 8) :=
  (s.userPte dir (pageNo va)).map fun e =>
    byteOfWord (s.memory (frameOf e) (wordIndex va)) (va.toNat % 4)

section

variable {base : Pmm} {s s' s'' : Paging} {dir supply n : Nat} {pd va : BitVec 32} {done : List Nat}

lemma Paging.userByte_congr (hpte : s'.userPte dir (pageNo va) = s.userPte dir (pageNo va))
    (hmem : ∀ e, s.userPte dir (pageNo va) = some e →
      s'.memory (frameOf e) = s.memory (frameOf e)) :
    s'.userByte dir va = s.userByte dir va := by
  rw [Paging.userByte, Paging.userByte, hpte]
  cases he : s.userPte dir (pageNo va) with
  | none => rfl
  | some e => rw [Option.map_some, Option.map_some, hmem e he]

namespace Paging.MapsZero

variable {pages pages' : Nat → Prop}

lemma refl (s : Paging) : s.MapsZero dir (fun _ => False) s where
  fresh _ _ h := h.elim
  kept _ _ _ := ⟨rfl, fun _ _ => rfl⟩
  grows _ h := h

lemma trans (h : s.MapsZero dir pages s') (h' : s'.MapsZero dir pages' s'') :
    s.MapsZero dir (fun m => pages m ∨ pages' m) s'' where
  fresh m hm hmem := by
    by_cases hlate : pages' m
    · obtain ⟨e, he, hzero, hfree⟩ := h'.fresh m hm hlate
      exact ⟨e, he, hzero, fun hused => hfree (h.grows _ hused)⟩
    · obtain ⟨e, he, hzero, hfree⟩ := h.fresh m hm (hmem.resolve_right hlate)
      obtain ⟨hpte, hkept⟩ := h'.kept m hm hlate
      exact ⟨e, hpte.trans he, (hkept e he).trans hzero, hfree⟩
  kept m hm hmem := by
    obtain ⟨hearly, hlate⟩ := not_or.1 hmem
    obtain ⟨hpte, hkept⟩ := h.kept m hm hearly
    obtain ⟨hpte', hkept'⟩ := h'.kept m hm hlate
    exact ⟨hpte'.trans hpte, fun e he => (hkept' e (hpte.trans he)).trans (hkept e he)⟩
  grows q hq := h'.grows q (h.grows q hq)

lemma userByte [DecidablePred pages] (h : s.MapsZero dir pages s') (va : BitVec 32) :
    s'.userByte dir va = if pages (pageNo va) then some 0 else s.userByte dir va := by
  split_ifs with hpage
  · obtain ⟨e, he, hzero, -⟩ := h.fresh _ (pageNo_lt va) hpage
    rw [Paging.userByte, he, Option.map_some, hzero, byteOfWord_zero]
  · obtain ⟨hpte, hkept⟩ := h.kept _ (pageNo_lt va) hpage
    exact Paging.userByte_congr hpte hkept

end Paging.MapsZero

section

variable (h : s.Loaded base dir supply done)
include h

lemma foldlM_mapZeroPage_maps (hlow : ∀ page < 256, base.Used page) (hpd : pd &&& pageMask ≠ 0)
    (hdir : frameOf pd = dir) {pages : List Nat} (hpages : ∀ n ∈ pages, UserPage n)
    (hok : pages.foldlM (mapZeroPage pd) s = .ok s') :
    s'.Loaded base dir supply (done ++ pages) ∧ s.MapsZero dir (· ∈ pages) s' := by
  induction pages generalizing s done with
  | nil =>
    obtain rfl : s = s' := Except.ok.inj hok
    refine ⟨by rwa [List.append_nil], ?_⟩
    simpa using Paging.MapsZero.refl s
  | cons n pages ih =>
    rw [List.foldlM_cons] at hok
    rcases mapZeroPage_maps h hlow hpd hdir (hpages n List.mem_cons_self) with
      ⟨s₁, hfirst, hs₁, hmaps₁, -⟩ | ⟨s₁, hfirst, -⟩
    · rw [hfirst] at hok
      obtain ⟨hs', hmaps⟩ := ih hs₁ (fun m hm => hpages m (List.mem_cons_of_mem _ hm)) hok
      rw [List.append_assoc] at hs'
      refine ⟨hs', ?_⟩
      simpa using hmaps₁.trans hmaps
    · rw [hfirst] at hok
      cases hok

lemma Paging.Loaded.phys (hpd : pd &&& pageMask ≠ 0) (hdir : frameOf pd = dir)
    (hva : UserPage (pageNo va)) (hphys : resolveUserPhys s pd va ≠ 0) :
    ∃ e, s.userPte dir (pageNo va) = some e ∧
      (resolveUserPhys s pd va).toNat = frameOf e * pageSize + va.toNat % pageSize := by
  obtain ⟨base', hbase, -, hs⟩ := h.sound
  have heq := resolveUserPhys_eq hs hpd hdir hva
  cases he : s.userPte dir (pageNo va) with
  | none =>
    rw [he] at heq
    exact absurd heq hphys
  | some e =>
    rw [he] at heq
    exact ⟨e, rfl, by rw [heq, toNat_inPage]⟩

lemma Paging.Loaded.setPhysByte {m : Nat} (hm : m < 1048576) {e phys : BitVec 32}
    (he : s.userPte dir m = some e) (hphys : frameOf phys = frameOf e) (v : BitVec 8) :
    (Loader.setPhysByte s phys v).Loaded base dir supply done ∧
      (∀ l, l < 1048576 → (Loader.setPhysByte s phys v).userPte dir l = s.userPte dir l) ∧
      (∀ l, l < 1048576 → l ≠ m → ∀ e', s.userPte dir l = some e' →
        (Loader.setPhysByte s phys v).memory (frameOf e') = s.memory (frameOf e')) ∧
      (Loader.setPhysByte s phys v).memory (frameOf e) =
        Function.update (s.memory (frameOf e)) (wordIndex phys)
          (setByteOfWord (s.memory (frameOf e) (wordIndex phys)) (phys.toNat % 4) v) := by
  obtain ⟨base', -, -, hs⟩ := h.sound
  unfold Loader.setPhysByte Paging.setWord
  rw [hphys]
  have hchanges := hs.changes_setPage hm he (Function.update (s.memory (frameOf e)) (wordIndex phys)
    (setByteOfWord (s.memory (frameOf e) (wordIndex phys)) (phys.toNat % 4) v))
  refine ⟨h.setPage hm he _, fun l hl => hchanges.outside l hl id, fun l hl hne e' he' => ?_, ?_⟩
  · rw [Paging.memory_setPage, if_neg fun heq => hne (hs.frame_inj hl hm he' he heq)]
  · rw [Paging.memory_setPage, if_pos rfl]

lemma Paging.Loaded.setUserByte (hpd : pd &&& pageMask ≠ 0) (hdir : frameOf pd = dir)
    (hva : UserPage (pageNo va)) (hphys : resolveUserPhys s pd va ≠ 0) (v : BitVec 8) :
    (Loader.setPhysByte s (resolveUserPhys s pd va) v).Loaded base dir supply done ∧
      (∀ l, l < 1048576 →
        (Loader.setPhysByte s (resolveUserPhys s pd va) v).userPte dir l = s.userPte dir l) ∧
      ∀ a, (Loader.setPhysByte s (resolveUserPhys s pd va) v).userByte dir a =
        if a = va then some v else s.userByte dir a := by
  obtain ⟨e, he, htoNat⟩ := h.phys hpd hdir hva hphys
  generalize resolveUserPhys s pd va = phys at htoNat ⊢
  have hoff : va.toNat % pageSize < pageSize := Nat.mod_lt _ (by decide)
  have hframe : frameOf phys = frameOf e := by
    rw [frameOf_eq_div phys, htoNat]
    unfold pageSize at hoff ⊢
    omega
  obtain ⟨hword, hbyte⟩ : wordIndex phys = wordIndex va ∧ phys.toNat % 4 = va.toNat % 4 := by
    refine wordIndex_congr ?_
    rw [htoNat, Nat.mul_add_mod_self_right, Nat.mod_mod]
  obtain ⟨hs', hptes, hothers, hmem⟩ := h.setPhysByte (pageNo_lt va) he hframe v
  refine ⟨hs', hptes, fun a => ?_⟩
  rw [Paging.userByte, Paging.userByte, hptes _ (pageNo_lt a)]
  by_cases hpage : pageNo a = pageNo va
  · rw [hpage, he, Option.map_some, Option.map_some, hmem, hword, hbyte]
    by_cases hsame : wordIndex a = wordIndex va
    · rw [hsame, Function.update_self, byteOfWord_setByteOfWord _ (Nat.mod_lt _ (by decide)),
        apply_ite some]
      refine if_congr ⟨fun heq => eq_of_wordIndex hpage hsame heq, fun heq => ?_⟩ rfl rfl
      rw [heq]
    · rw [Function.update_of_ne hsame, if_neg]
      rintro rfl
      exact hsame rfl
  · rw [if_neg fun heq => hpage (congrArg pageNo heq)]
    cases he' : s.userPte dir (pageNo a) with
    | none => rfl
    | some e' => rw [Option.map_some, Option.map_some, hothers _ (pageNo_lt a) hpage e' he']

omit h in
lemma eq_add_ofNat_iff {a start : BitVec 32} {n : Nat} (hn : n < 4294967296) :
    a = start + BitVec.ofNat 32 n ↔ (a - start).toNat = n := by
  have hnat : (BitVec.ofNat 32 n).toNat = n := by
    exact Nat.mod_eq_of_lt hn
  rw [BitVec.add_comm, ← BitVec.sub_eq_iff_eq_add]
  exact ⟨fun h => by rw [h, hnat], fun h => BitVec.eq_of_toNat_eq (h.trans hnat.symm)⟩

lemma copyByte_writes {image : UserImage} {src : BitVec 32} {i : Nat} (hpd : pd &&& pageMask ≠ 0)
    (hdir : frameOf pd = dir)
    (hva : UserPage (pageNo (va + BitVec.ofNat 32 i)))
    (hok : (Loader.copyByte image pd va src s i).result = .ok s') :
    s'.Loaded base dir supply done ∧ s'.memoryBitmap = s.memoryBitmap ∧
      (∀ l < 1048576, s'.userPte dir l = s.userPte dir l) ∧
      ∀ a, s'.userByte dir a = if a = va + BitVec.ofNat 32 i
        then some (image.bytes (src + BitVec.ofNat 32 i)) else s.userByte dir a := by
  simp only [Loader.copyByte] at hok
  split_ifs at hok with hphys
  · cases hok
  · obtain rfl := Except.ok.inj hok
    obtain ⟨hs', hptes, hbytes⟩ := h.setUserByte hpd hdir hva hphys
      (image.bytes (src + BitVec.ofNat 32 i))
    exact ⟨hs', Paging.memoryBitmap_setWord _ _ _ _, hptes, hbytes⟩

lemma copyToUserSpace_writes {image : UserImage} {src size : BitVec 32} (hpd : pd &&& pageMask ≠ 0)
    (hdir : frameOf pd = dir)
    (hva : ∀ i < size.toNat, UserPage (pageNo (va + BitVec.ofNat 32 i)))
    (hok : (Loader.copyToUserSpace image pd va src size s).result = .ok s') :
    s'.Loaded base dir supply done ∧ s'.memoryBitmap = s.memoryBitmap ∧
      (∀ l < 1048576, s'.userPte dir l = s.userPte dir l) ∧
      ∀ a, s'.userByte dir a = if (a - va).toNat < size.toNat
        then some (image.bytes (src + (a - va))) else s.userByte dir a := by
  have hsize := size.isLt
  rw [Loader.copyToUserSpace, Logged.result_foldlM] at hok
  generalize size.toNat = n at hva hsize hok ⊢
  induction n generalizing s' with
  | zero =>
    obtain rfl : s = s' := Except.ok.inj hok
    exact ⟨h, rfl, fun _ _ => rfl, fun a => rfl⟩
  | succ n ih =>
    rw [List.range_succ, List.foldlM_append] at hok
    cases hfirst : (List.range n).foldlM
      (fun s i => (Loader.copyByte image pd va src s i).result) s with
    | error e =>
      rw [hfirst] at hok
      cases hok
    | ok s₁ =>
      rw [hfirst] at hok
      have hlast : [n].foldlM (fun s i => (Loader.copyByte image pd va src s i).result) s₁ =
        .ok s' := hok
      simp only [List.foldlM_cons, List.foldlM_nil, bind_pure] at hlast
      obtain ⟨hs₁, hbits₁, hptes₁, hbytes₁⟩ := ih (fun i hi => hva i (by omega)) (by omega) hfirst
      obtain ⟨hs', hbits, hptes, hbytes⟩ := copyByte_writes hs₁ hpd hdir (hva n (by omega)) hlast
      refine ⟨hs', hbits.trans hbits₁, fun l hl => (hptes l hl).trans (hptes₁ l hl), fun a => ?_⟩
      rw [hbytes, hbytes₁]
      by_cases hn : a = va + BitVec.ofNat 32 n
      · have hoff : a - va = BitVec.ofNat 32 n := by
          rw [hn, BitVec.add_comm, BitVec.add_sub_cancel]
        rw [if_pos hn, if_pos, hoff]
        rw [(eq_add_ofNat_iff (by omega)).1 hn]
        omega
      · rw [if_neg hn]
        refine if_congr ?_ rfl rfl
        rw [eq_add_ofNat_iff (by omega)] at hn
        omega

omit h in
lemma mapZeroPage_result (pd : BitVec 32) (s : Paging) (n : Nat) :
    (Loader.mapZeroPage pd s n).result = mapZeroPage pd s n := by
  unfold Loader.mapZeroPage
  generalize mapZeroPage pd s n = r
  cases r with
  | error e => rfl
  | ok s => rfl

omit h in
lemma mapUserRange_result (pd : BitVec 32) (s : Paging) (start size : BitVec 32) :
    (Loader.mapUserRange pd s start size).result = mapUserRange pd s start size := by
  rw [Loader.mapUserRange, mapUserRange]
  split_ifs
  · exact Logged.result_stop _
  · rw [Logged.result_foldlM]
    simp only [mapZeroPage_result]

lemma mapUserRange_maps (hlow : ∀ page < 256, base.Used page) (hpd : pd &&& pageMask ≠ 0)
    (hdir : frameOf pd = dir) {start size : BitVec 32} (hrange : isUserRange start size = true)
    (hok : (Loader.mapUserRange pd s start size).result = .ok s') :
    s'.Loaded base dir supply (done ++ rangePages start size) ∧
      s.MapsZero dir (· ∈ rangePages start size) s' := by
  rw [mapUserRange_result, mapUserRange] at hok
  split_ifs at hok
  exact foldlM_mapZeroPage_maps h hlow hpd hdir
    (fun n hn => userPage_of_mem_rangePages hrange hn) hok

end

lemma Elf32Phdr.end_of_accepted {size loadBias : BitVec 32} {ph : Elf32Phdr}
    (h : ph.accepted size loadBias = true) : ¬ size < ph.pOffset + ph.pFilesz := by
  simp only [Elf32Phdr.accepted, decide_eq_true_eq] at h
  exact h.2.2.2.2.1

lemma toNat_in_range {start size : BitVec 32} (hrange : isUserRange start size = true) {i : Nat}
    (hi : i < size.toNat) : (start + BitVec.ofNat 32 i).toNat = start.toNat + i := by
  obtain ⟨-, hmin, hmax⟩ := (isUserRange_iff start size).1 hrange
  rw [BitVec.toNat_add, BitVec.toNat_ofNat]
  omega

lemma mem_rangePages_of_lt {start size : BitVec 32} (hrange : isUserRange start size = true)
    {i : Nat} (hi : i < size.toNat) :
    pageNo (start + BitVec.ofNat 32 i) ∈ rangePages start size := by
  rw [mem_rangePages hrange, pageNo, pageNo, toNat_in_range hrange hi]
  exact ⟨Nat.div_le_div_right (by omega), Nat.div_le_div_right (by omega)⟩

end

end NeuroSpark
