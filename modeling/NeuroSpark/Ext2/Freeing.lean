import NeuroSpark.Ext2.Growth

/-!
# Taking blocks away from an inode

`inode_clear_blocks` and `ext2_truncate_inode` free blocks of an inode one by one and then store the
inode without its pointers.
-/

namespace NeuroSpark

open Word Ext2View

variable {L : Ext2Layout} {n : Nat} {s s' s'' : Ext2} {i i' : Ext2Inode} {v v' : Ext2View}
  {bu : Nat → Bool} {isMeta : Nat → Prop}

/-- The slots that `inode_clear_blocks` clears: all but the last two pointers. -/
def Cleared (sl : PtrSlot) : Prop := sl ≠ .ptr 13 ∧ sl ≠ .ptr 14

lemma cleared_ptr {k : Fin 15} (hk : k.val < 13) : Cleared (.ptr k) := by
  constructor <;> rintro ⟨⟩ <;> exact absurd hk (by decide)

lemma cleared_entry (j : Fin 256) : Cleared (.entry j) := ⟨by simp, by simp⟩

/-- Only blocks in cleared slots of `i` are free in `bu`. -/
structure Frees (v : Ext2View) (i : Ext2Inode) (bu : Nat → Bool) : Prop where
  used : ∀ p, bu p = true → v.blockUsed p = true
  freed : ∀ p, v.blockUsed p = true → bu p = false → p ≠ 0 ∧ ∃ sl, Cleared sl ∧ v.slot i sl = p

lemma Ext2View.Owned.release (h : v.Owned isMeta) (hn : v.Owner n) (hf : Frees v (v.inode n) bu)
    (hbu : v'.blockUsed = bu)
    (hheld : ∀ m sl p, v'.held m sl = some p → v.held m sl = some p ∧ (m = n → ¬ Cleared sl)) :
    v'.Owned isMeta := by
  have hkeep : ∀ p, v.blockUsed p = true →
      (∀ sl, Cleared sl → v.held n sl ≠ some p) → bu p = true := by
    intro p hp hno
    by_contra hb
    rw [Bool.not_eq_true] at hb
    obtain ⟨hp0, sl, hc, hsl⟩ := hf.freed p hp hb
    exact hno sl hc (held_eq_some.mpr ⟨hn, hsl, hp0⟩)
  refine ⟨h.exclusive.mono (fun m sl p hp => (hheld m sl p hp).1) fun m sl p hp hu => ⟨?_, hu.2⟩,
    fun b hm => ?_⟩
  · rw [hbu]
    obtain ⟨hold, hc⟩ := hheld m sl p hp
    refine hkeep p hu.1 fun sl' hc' hold' => ?_
    obtain ⟨rfl, rfl⟩ := h.exclusive.unique hold hold'
    exact hc rfl hc'
  · rw [hbu]
    exact hkeep b (h.metaUsed b hm) fun sl _ hold => (h.exclusive.used hold).2 hm

/-! ### Freeing block by block -/

/-- From `s` to `s'` some blocks in cleared slots of `i` were freed. -/
structure Releases (L : Ext2Layout) (i : Ext2Inode) (s s' : Ext2) : Prop where
  becomes : s.Becomes s' L { s.view L with blockUsed := (s'.view L).blockUsed }
  frees : Frees (s.view L) i (s'.view L).blockUsed

namespace Releases

lemma refl (h : s.HasLayout L) : Releases L i s s :=
  ⟨h.becomes, fun _ hp => hp, fun _ hp hp' => absurd (hp'.symm.trans hp) Bool.false_ne_true⟩

lemma slot (h : Releases L i s s') (j : Ext2Inode) (sl : PtrSlot) :
    (s'.view L).slot j sl = (s.view L).slot j sl := by
  rw [h.becomes.view]
  exact slot_congr (fun _ => rfl) sl

lemma trans (h : Releases L i s s') (h' : Releases L i s' s'') : Releases L i s s'' := by
  refine ⟨(h.becomes.trans h'.becomes).cast ?_, fun p hp => h.frees.used p (h'.frees.used p hp),
    fun p hp hfree => ?_⟩
  · rw [h.becomes.view]
  · by_cases hp' : (s'.view L).blockUsed p = true
    · obtain ⟨hp0, sl, hc, hsl⟩ := h'.frees.freed p hp' hfree
      exact ⟨hp0, sl, hc, (h.slot i sl).symm.trans hsl⟩
    · exact h.frees.freed p hp (by simpa using hp')

lemma freeBlock (hs : s.HasLayout L) (sl : PtrSlot) (hc : Cleared sl)
    (hne : (s.view L).slot i sl ≠ 0) (hvalid : ValidBlock s.mount ((s.view L).slot i sl)) :
    Releases L i s (freeBlock s ((s.view L).slot i sl)) := by
  have hb := freeBlock_spec hs hvalid
  have hbu : ((NeuroSpark.freeBlock s ((s.view L).slot i sl)).view L).blockUsed =
      Function.update (s.view L).blockUsed ((s.view L).slot i sl) false := by
    rw [hb.view]
  refine ⟨by rw [hbu]; exact hb, fun p hp => ?_, fun p hp hfree => ?_⟩
  · rw [hbu] at hp
    by_cases hpx : p = (s.view L).slot i sl
    · subst hpx
      rw [Function.update_self] at hp
      cases hp
    · rwa [Function.update_of_ne hpx] at hp
  · rw [hbu] at hfree
    by_cases hpx : p = (s.view L).slot i sl
    · subst hpx
      exact ⟨hne, sl, hc, rfl⟩
    · rw [Function.update_of_ne hpx, hp] at hfree
      cases hfree

lemma foldl {α : Type} {f : Ext2 → α → Ext2} {l : List α} (hs : s.HasLayout L)
    (hstep : ∀ t a, a ∈ l → Releases L i s t → Releases L i t (f t a)) :
    Releases L i s (l.foldl f s) := by
  have hgen : ∀ (l' : List α) (t : Ext2), (∀ a ∈ l', a ∈ l) → Releases L i s t →
      Releases L i s (l'.foldl f t) := by
    intro l'
    induction l' with
    | nil => exact fun t _ ht => ht
    | cons a l' ih =>
      intro t hl ht
      exact ih _ (fun b hb => hl b (List.mem_cons_of_mem _ hb))
        (ht.trans (hstep t a (hl a (List.mem_cons_self ..)) ht))
  exact hgen l s (fun _ ha => ha) (refl hs)

end Releases

/-- Every block in a slot of `i` is a data block. -/
def SlotsOk (L : Ext2Layout) (s : Ext2) (i : Ext2Inode) : Prop :=
  ∀ sl, (s.view L).slot i sl ≠ 0 →
    ValidBlock s.mount ((s.view L).slot i sl) ∧ ¬ L.IsMeta s.mount ((s.view L).slot i sl)

lemma Ext2View.Owned.slotsOk (h : (s.view L).Owned (L.IsMeta s.mount)) (hn : (s.view L).Owner n) :
    SlotsOk L s ((s.view L).inode n) := by
  intro sl hsl
  obtain ⟨hu, hm⟩ := h.exclusive.used (held_eq_some.mpr ⟨hn, rfl, hsl⟩)
  exact ⟨blockUsed_valid hu, hm⟩

lemma SlotsOk.indirectOk (h : SlotsOk L s i) : IndirectOk L s.mount i := by
  intro h12
  obtain ⟨hv, hm⟩ := h (.ptr 12) h12
  exact ⟨hv.2, hm⟩

lemma SlotsOk.of_releases (h : SlotsOk L s i) (hr : Releases L i' s s') : SlotsOk L s' i := by
  intro sl hsl
  rw [hr.slot] at hsl ⊢
  rw [hr.becomes.mount]
  exact h sl hsl

lemma foldl_clearDirect_skip {ks : List Nat} {r : Ext2 × Ext2Inode}
    (hr : ∀ k ∈ ks, r.2.block k = 0) : ks.foldl clearDirect r = r := by
  induction ks with
  | nil => rfl
  | cons k ks ih =>
    rw [List.foldl_cons, clearDirect, if_neg (not_not.mpr (hr k (List.mem_cons_self ..)))]
    exact ih fun k' hk' => hr k' (List.mem_cons_of_mem _ hk')

section

variable (hs : s.HasLayout L) (hi : SlotsOk L s i)
include hs hi

lemma foldl_clearDirect_spec {m : Nat} (hm : m ≤ 12) :
    Releases L i s ((List.range m).foldl clearDirect (s, i)).1 ∧
      (∀ k < 15, ((List.range m).foldl clearDirect (s, i)).2.block k =
        if k < m then 0 else i.block k) ∧
      ((List.range m).foldl clearDirect (s, i)).2.mode = i.mode := by
  induction m with
  | zero => exact ⟨.refl hs, fun k _ => by simp, rfl⟩
  | succ m ih =>
    obtain ⟨hrel, hblock, hmode⟩ := ih (by omega)
    rw [List.range_succ, List.foldl_append]
    generalize (List.range m).foldl clearDirect (s, i) = r at hrel hblock hmode ⊢
    have hm' := hblock m (by omega)
    rw [if_neg (Nat.lt_irrefl m)] at hm'
    simp only [List.foldl_cons, List.foldl_nil, clearDirect, hm']
    split_ifs with h0
    · have hvalid := (hi.of_releases hrel (.ptr ⟨m, by omega⟩) h0).1
      have hfree := Releases.freeBlock hrel.becomes.layout (i := i) (.ptr ⟨m, by omega⟩)
        (cleared_ptr (by simp only; omega)) h0 hvalid
      refine ⟨hrel.trans hfree, fun k hk => ?_, (Ext2Inode.mode_setBlock _ _ _).trans hmode⟩
      by_cases hkm : k = m
      · subst hkm
        rw [if_pos (Nat.lt_succ_self k), Ext2Inode.block_setBlock_same _ hk (by omega)]
      · have hiff : k < m + 1 ↔ k < m := by omega
        rw [Ext2Inode.block_setBlock_of_ne _ hkm, hblock k hk]
        simp only [hiff]
    · refine ⟨hrel, fun k hk => ?_, hmode⟩
      by_cases hkm : k = m
      · subst hkm
        rw [hblock k hk, if_neg (Nat.lt_irrefl k), if_pos (Nat.lt_succ_self k)]
        simpa using h0
      · have hiff : k < m + 1 ↔ k < m := by omega
        rw [hblock k hk]
        simp only [hiff]

lemma foldl_freeIndirect_spec (h12 : i.block 12 ≠ 0) :
    Releases L i s ((List.range inodePtrsPerBlock).foldl
      (freeIndirect ((s.view L).data (i.block 12))) s) := by
  apply Releases.foldl hs
  intro t j hj ht
  have hj' : j < 256 := List.mem_range.mp hj
  have hslot : (t.view L).slot i (.entry ⟨j, hj'⟩) = ((s.view L).data (i.block 12)).le32 (4 * j) := by
    rw [ht.slot]
    simp only [slot, if_neg h12]
  unfold freeIndirect
  rw [← hslot]
  split_ifs with h0
  · exact .freeBlock ht.becomes.layout _ (cleared_entry _) h0 (hi.of_releases ht _ h0).1
  · exact .refl ht.becomes.layout

/-- `i'` is `i` without the pointers that are cleared. -/
structure IsCleared (i i' : Ext2Inode) : Prop where
  block : ∀ k < 15, i'.block k = if k < 13 then 0 else i.block k
  mode : i'.mode = i.mode

omit hs hi in
lemma IsCleared.slot (h : IsCleared i i') {sl : PtrSlot} (hsl : Cleared sl) : v.slot i' sl = 0 := by
  have h12 : i'.block 12 = 0 := h.block 12 (by omega)
  cases sl with
  | ptr k =>
    have hk := h.block k k.isLt
    have h13 : k.val ≠ 13 := fun he => hsl.1 (congrArg PtrSlot.ptr (Fin.ext he))
    have h14 : k.val ≠ 14 := fun he => hsl.2 (congrArg PtrSlot.ptr (Fin.ext he))
    have hlt := k.isLt
    rw [if_pos (by omega)] at hk
    exact hk
  | entry j => simp only [Ext2View.slot, if_pos h12]

omit hs hi in
lemma IsCleared.slot_keep (h : IsCleared i i') {sl : PtrSlot} (hsl : ¬ Cleared sl) :
    v.slot i' sl = v.slot i sl := by
  cases sl with
  | ptr k =>
    have hk : ¬ k.val < 13 := fun hk => hsl (cleared_ptr hk)
    have hb := h.block k k.isLt
    rwa [if_neg hk] at hb
  | entry j => exact absurd (cleared_entry j) hsl

/-- What `inode_clear_blocks` does. -/
theorem inodeClearBlocks_spec :
    Releases L i s (inodeClearBlocks s i).1 ∧ IsCleared i (inodeClearBlocks s i).2 := by
  obtain ⟨hrel, hblock, hmode⟩ := foldl_clearDirect_spec hs hi (Nat.le_refl 12)
  unfold inodeClearBlocks
  generalize (List.range 12).foldl clearDirect (s, i) = r at hrel hblock hmode ⊢
  have h12 : r.2.block 12 = i.block 12 := by
    rw [hblock 12 (by omega), if_neg (by omega)]
  dsimp only
  rw [h12]
  split_ifs with h0
  · have hi' := hi.of_releases hrel
    have hread : readBlock r.1 (i.block 12) = some ((r.1.view L).data (i.block 12)) := by
      obtain ⟨hlt, hmeta⟩ := hi'.indirectOk h0
      exact readBlock_data hrel.becomes.layout hlt hmeta
    simp only [hread]
    have hrel₂ := foldl_freeIndirect_spec hrel.becomes.layout hi' h0
    generalize (List.range inodePtrsPerBlock).foldl
      (freeIndirect ((r.1.view L).data (i.block 12))) r.1 = t at hrel₂ ⊢
    have hrel₃ : Releases L i t (freeBlock t (i.block 12)) :=
      Releases.freeBlock (i := i) hrel₂.becomes.layout (.ptr 12) (cleared_ptr (by decide)) h0
        ((hi'.of_releases hrel₂) (.ptr 12) h0).1
    refine ⟨(hrel.trans hrel₂).trans hrel₃, ⟨fun k hk => ?_, ?_⟩⟩
    · rw [Ext2Inode.block_setBlocks, Ext2Inode.block_setSize]
      by_cases hk12 : k = 12
      · subst hk12
        rw [Ext2Inode.block_setBlock_same _ (by omega) (by omega), if_pos (by omega)]
      · have hiff : k < 13 ↔ k < 12 := by omega
        rw [Ext2Inode.block_setBlock_of_ne _ hk12, hblock k hk]
        simp only [hiff]
    · simp only [Ext2Inode.mode_setBlocks, Ext2Inode.mode_setSize, Ext2Inode.mode_setBlock, hmode]
  · refine ⟨hrel, ⟨fun k hk => ?_, ?_⟩⟩
    · rw [Ext2Inode.block_setBlocks, Ext2Inode.block_setSize, hblock k hk]
      by_cases hk12 : k = 12
      · subst hk12
        simpa using h0
      · have hiff : k < 13 ↔ k < 12 := by omega
        simp only [hiff]
    · simp only [Ext2Inode.mode_setBlocks, Ext2Inode.mode_setSize, hmode]

lemma inodeClearBlocks_again (hc : IsCleared i i') :
    Releases L i s (inodeClearBlocks s i').1 ∧ IsCleared i (inodeClearBlocks s i').2 := by
  have hi' : SlotsOk L s i' := by
    intro sl hsl
    by_cases hcl : Cleared sl
    · exact absurd (hc.slot hcl) hsl
    · rw [hc.slot_keep hcl] at hsl ⊢
      exact hi sl hsl
  obtain ⟨hrel, hcl⟩ := inodeClearBlocks_spec hs hi'
  refine ⟨⟨hrel.becomes, hrel.frees.used, fun p hp hfree => ?_⟩, fun k hk => ?_,
    hcl.mode.trans hc.mode⟩
  · obtain ⟨hp0, sl, hsl, he⟩ := hrel.frees.freed p hp hfree
    rw [hc.slot hsl] at he
    exact absurd he.symm hp0
  · rw [hcl.block k hk, hc.block k hk]
    split_ifs <;> rfl

end

/-! ### Truncation -/

lemma inodeUsed_valid (h : (s.view L).inodeUsed n = true) : ValidInode s.mount n := by
  simp only [Ext2.view, Ext2Layout.view, Bool.and_eq_true, decide_eq_true_eq] at h
  exact h.1

/-- Blocks were freed and inode `n` was stored, with the mode that it had. -/
def Shrunk (v v' : Ext2View) (n : Nat) : Prop :=
  ∃ bu j, v' = withInode { v with blockUsed := bu } n j ∧
    (∀ p, bu p = true → v.blockUsed p = true) ∧ j.mode = (v.inode n).mode

section

variable (ho : (s.view L).Owned (L.IsMeta s.mount)) (hn : (s.view L).Owner n)
include ho hn

lemma writeInode_cleared (hrel : Releases L ((s.view L).inode n) s s')
    (hc : IsCleared ((s.view L).inode n) i) :
    (writeInode s' n i).2 = true ∧
      s.Becomes (writeInode s' n i).1 L ((writeInode s' n i).1.view L) ∧
      ((writeInode s' n i).1.view L).Owned (L.IsMeta s.mount) ∧
      Shrunk (s.view L) ((writeInode s' n i).1.view L) n := by
  have hvalid : ValidInode s'.mount n := by
    rw [hrel.becomes.mount]
    exact inodeUsed_valid hn.1
  obtain ⟨hok, hb⟩ := writeInode_spec hrel.becomes.layout hvalid i
  have hview : (writeInode s' n i).1.view L =
      withInode { s.view L with blockUsed := (s'.view L).blockUsed } n i := by
    rw [hb.view, hrel.becomes.view]
    rfl
  refine ⟨hok, (hrel.becomes.trans hb).self, ?_, ⟨_, i, hview, hrel.frees.used, hc.mode⟩⟩
  rw [hview]
  refine ho.release hn hrel.frees rfl fun m sl p hp => ?_
  by_cases hm : m = n
  · subst hm
    obtain ⟨-, -, hp, hp0⟩ := held_withInode_same.mp hp
    have hcl : ¬ Cleared sl := fun hcl => hp0 (hp.symm.trans (hc.slot hcl))
    rw [hc.slot_keep hcl] at hp
    exact ⟨held_eq_some.mpr ⟨hn, hp, hp0⟩, fun _ => hcl⟩
  · rw [held_withInode_of_ne hm] at hp
    exact ⟨hp, fun he => absurd he hm⟩

end

lemma writeInode_fields (hs : s.HasLayout L) (ho : (s.view L).Owned (L.IsMeta s.mount))
    (hn : ValidInode s.mount n) (hle : PtrLe i ((s.view L).inode n))
    (hsym : ¬ i.InlineSymlink → ¬ ((s.view L).inode n).InlineSymlink) :
    (writeInode s n i).2 = true ∧
      s.Becomes (writeInode s n i).1 L ((writeInode s n i).1.view L) ∧
      ((writeInode s n i).1.view L).Owned (L.IsMeta s.mount) ∧
      (i.mode = ((s.view L).inode n).mode →
        Shrunk (s.view L) ((writeInode s n i).1.view L) n) := by
  obtain ⟨hok, hb⟩ := writeInode_spec hs hn i
  have hview : (writeInode s n i).1.view L = (s.view L).withInode n i := hb.view
  refine ⟨hok, hb.self, ?_, fun hmode => ⟨_, i, hview, fun _ hp => hp, hmode⟩⟩
  rw [hview]
  refine Owned.of_ptrLe (j := (s.view L).inode n) ?_ hle hsym
  rwa [withInode_self]

/-- The condition under which `ext2_truncate_inode` is right: a file that stays longer than its
direct blocks has only holes between its new and its old end. -/
def TruncatesWell (s : Ext2) (inode : Ext2Inode) (newSize : Nat) : Prop :=
  12 < blockCount newSize → ∀ k, blockCount newSize ≤ k → k < blockCount inode.size →
    (inodeGetBlock s inode k false).2.2 = 0

lemma freeBlockOf_releases (hs : s.HasLayout L) (hi : SlotsOk L s i) (k : Nat) :
    Releases L i s (freeBlockOf i s k) := by
  unfold freeBlockOf
  rw [inodeGetBlock_lookup hs hi.indirectOk]
  dsimp only
  split_ifs with hbad
  · exact .refl hs
  · cases hk : fileSlot k with
    | none =>
      simp only [fileBlock, hk, Option.map_none, Option.getD_none] at hbad
      exact absurd (Or.inl rfl) hbad
    | some sl =>
      simp only [fileBlock, hk, Option.map_some, Option.getD_some] at hbad ⊢
      have hne : (s.view L).slot i sl ≠ 0 := fun h0 => hbad (Or.inl h0)
      have hcl : Cleared sl := ⟨fileSlot_ne_ptr hk (by decide), fileSlot_ne_ptr hk (by decide)⟩
      exact .freeBlock hs sl hcl hne (hi sl hne).1

lemma foldl_freeBlockOf_holes (is : List Nat) (h : ∀ k ∈ is, (inodeGetBlock s i k false).2.2 = 0) :
    is.foldl (freeBlockOf i) s = s := by
  induction is with
  | nil => rfl
  | cons k is ih =>
    have hk : freeBlockOf i s k = s := by
      rw [freeBlockOf, h k (List.mem_cons_self ..), if_pos (show BadNum 0 from Or.inl rfl)]
    rw [List.foldl_cons, hk]
    exact ih fun k' hk' => h k' (List.mem_cons_of_mem _ hk')

/-- What cutting or growing a file does. -/
theorem ext2TruncateInode_spec (hs : s.HasLayout L) (ho : (s.view L).Owned (L.IsMeta s.mount))
    (hn : (s.view L).Owner n) {newSize : Nat} (hok : TruncatesWell s ((s.view L).inode n) newSize) :
    (ext2TruncateInode s n newSize).2 = true ∧
      s.Becomes (ext2TruncateInode s n newSize).1 L ((ext2TruncateInode s n newSize).1.view L) ∧
      ((ext2TruncateInode s n newSize).1.view L).Owned (L.IsMeta s.mount) ∧
      Shrunk (s.view L) ((ext2TruncateInode s n newSize).1.view L) n := by
  have hi := ho.slotsOk hn
  have hsized : ∀ j, IsCleared ((s.view L).inode n) j →
      IsCleared ((s.view L).inode n) (j.setSize newSize) := by
    intro j hj
    refine ⟨fun k hk => ?_, (Ext2Inode.mode_setSize _ _).trans hj.mode⟩
    rw [Ext2Inode.block_setSize]
    exact hj.block k hk
  have hfields : PtrLe (((s.view L).inode n).setSize newSize) ((s.view L).inode n) :=
    .of_eq fun k => Ext2Inode.block_setSize _ _ _
  have hstored := writeInode_fields hs ho (inodeUsed_valid hn.1) hfields fun _ => hn.2
  replace hstored := And.imp_right (And.imp_right (And.imp_right fun h =>
    h (Ext2Inode.mode_setSize _ _))) hstored
  unfold ext2TruncateInode
  rw [readInode_eq hs (inodeUsed_valid hn.1)]
  dsimp only
  by_cases hless : blockCount newSize < blockCount ((s.view L).inode n).size
  · simp only [if_pos hless]
    by_cases h12 : blockCount newSize ≤ 12
    · simp only [if_pos h12]
      have hrel : Releases L ((s.view L).inode n) s
          ((List.range' (blockCount newSize) (blockCount ((s.view L).inode n).size -
            blockCount newSize)).foldl (freeBlockOf ((s.view L).inode n)) s) :=
        Releases.foldl hs fun t k _ ht =>
          freeBlockOf_releases ht.becomes.layout (hi.of_releases ht) k
      generalize (List.range' (blockCount newSize) (blockCount ((s.view L).inode n).size -
        blockCount newSize)).foldl (freeBlockOf ((s.view L).inode n)) s = t at hrel ⊢
      have hit := hi.of_releases hrel
      obtain ⟨hrel₂, hc⟩ := inodeClearBlocks_spec hrel.becomes.layout hit
      have hrel₂ := hrel.trans hrel₂
      generalize inodeClearBlocks t ((s.view L).inode n) = c at hrel₂ hc ⊢
      split_ifs
      · obtain ⟨hrel₃, hc₃⟩ := inodeClearBlocks_again hrel₂.becomes.layout (hi.of_releases hrel₂) hc
        exact writeInode_cleared ho hn (hrel₂.trans hrel₃) (hsized _ hc₃)
      · exact writeInode_cleared ho hn hrel₂ (hsized _ hc)
    · have hnz : newSize ≠ 0 := by
        rintro rfl
        exact h12 (by simp [blockCount, u32, ext2BlockSize])
      have hholes := foldl_freeBlockOf_holes (s := s) (i := (s.view L).inode n)
        (List.range' (blockCount newSize)
          (blockCount ((s.view L).inode n).size - blockCount newSize)) fun k hk => by
            obtain ⟨h₁, h₂⟩ := List.mem_range'_1.mp hk
            exact hok (by omega) k h₁ (by omega)
      simp only [if_neg h12, if_neg hnz, hholes]
      exact hstored
  · simp only [if_neg hless]
    split_ifs
    · obtain ⟨hrel, hc⟩ := inodeClearBlocks_spec hs hi
      exact writeInode_cleared ho hn hrel (hsized _ hc)
    · exact hstored

end NeuroSpark
