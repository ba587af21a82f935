import NeuroSpark.Ext2.Ownership

/-!
# Adding blocks to an inode

The driver keeps the inode it works on in memory and adds pointers to it there, while entries of
the indirect block go to the disk at once. `Extends` relates the state and the inode in memory
before and after some blocks were added; nothing that the image held is lost.
-/

namespace NeuroSpark

open Function (update update_self update_of_ne)
open Word Ext2View

variable {L : Ext2Layout} {n : Nat} {S T W : PtrSlot → Prop} {s s' s'' : Ext2}
  {i i' i'' : Ext2Inode} {v : Ext2View}

/-- Inode `n`, which the driver has as `i` and then as `i'` in memory, was extended: blocks were
added to it in slots of `S` and for its indirect block, and the data of its blocks in slots of `W`
were written. -/
structure Extends (L : Ext2Layout) (n : Nat) (S W : PtrSlot → Prop) (s : Ext2) (i : Ext2Inode)
    (s' : Ext2) (i' : Ext2Inode) : Prop where
  becomes : s.Becomes s' L (s'.view L)
  owned : ((s'.view L).withInode n i').Owned (L.IsMeta s.mount)
  inode : (s'.view L).inode = (s.view L).inode
  inodeUsed : (s'.view L).inodeUsed = (s.view L).inodeUsed
  mode : i'.mode = i.mode
  size : i'.size = i.size
  used : ∀ p, (s.view L).blockUsed p = true → (s'.view L).blockUsed p = true
  data : ∀ p, (s.view L).blockUsed p = true → p ≠ i.block 12 →
    (∀ sl, W sl → (s.view L).slot i sl ≠ p) → (s'.view L).data p = (s.view L).data p
  slots : ∀ sl, (s.view L).slot i sl ≠ 0 → (s'.view L).slot i' sl = (s.view L).slot i sl
  fresh : ∀ sl, (s.view L).slot i sl = 0 →
    (s'.view L).slot i' sl = 0 ∨ (s.view L).blockUsed ((s'.view L).slot i' sl) = false
  others : ∀ sl, sl ≠ .ptr 12 → ¬ S sl → (s'.view L).slot i' sl = (s.view L).slot i sl

/-- The driver works on inode `n`, a live inode with block pointers, and has it as `i` in memory. -/
structure Working (L : Ext2Layout) (n : Nat) (s : Ext2) (i : Ext2Inode) : Prop where
  layout : s.HasLayout L
  live : (s.view L).inodeUsed n = true
  notInline : ¬ i.InlineSymlink
  owned : ((s.view L).withInode n i).Owned (L.IsMeta s.mount)

lemma Ext2View.Owned.working (h : (s.view L).Owned (L.IsMeta s.mount)) (hs : s.HasLayout L)
    (hn : (s.view L).Owner n) : Working L n s ((s.view L).inode n) :=
  ⟨hs, hn.1, hn.2, by rwa [withInode_self]⟩

namespace Extends

lemma working (h : Extends L n S W s i s' i') (hk : Working L n s i) : Working L n s' i' where
  layout := h.becomes.layout
  live := (congrFun h.inodeUsed n).trans hk.live
  notInline := by
    rw [Ext2Inode.InlineSymlink, h.mode, h.size]
    exact hk.notInline
  owned := by
    rw [h.becomes.mount]
    exact h.owned

lemma refl (hk : Working L n s i) : Extends L n S W s i s i where
  becomes := hk.layout.becomes
  owned := hk.owned
  inode := rfl
  inodeUsed := rfl
  mode := rfl
  size := rfl
  used _ hp := hp
  data _ _ _ _ := rfl
  slots _ _ := rfl
  fresh _ h0 := Or.inl h0
  others _ _ _ := rfl

lemma mono (h : Extends L n S T s i s' i') {S' T' : PtrSlot → Prop} (hS : ∀ sl, S sl → S' sl)
    (hT : ∀ sl, T sl → T' sl) : Extends L n S' T' s i s' i' :=
  { h with
    data := fun p hp h12 hW => h.data p hp h12 fun sl hsl => hW sl (hT sl hsl)
    others := fun sl h12 hS' => h.others sl h12 fun hsl => hS' (hS sl hsl) }

lemma ptrLe (h : Extends L n S W s i s' i') : PtrLe i i' := by
  intro k
  by_cases hk : i.block k = 0
  · exact Or.inl hk
  · exact Or.inr (h.slots (.ptr k) hk).symm

lemma slot_ne (h : Extends L n S W s i s' i') {p : Nat} (hp : (s.view L).blockUsed p = true)
    (sl : PtrSlot) (hsl : (s.view L).slot i sl ≠ p) : (s'.view L).slot i' sl ≠ p := by
  by_cases h0 : (s.view L).slot i sl = 0
  · rcases h.fresh sl h0 with h0' | hfree
    · rwa [h0', ← h0]
    · rintro rfl
      exact Bool.false_ne_true (hfree.symm.trans hp)
  · rwa [h.slots sl h0]

lemma trans (h : Extends L n S W s i s' i') (h' : Extends L n S W s' i' s'' i'') :
    Extends L n S W s i s'' i'' where
  becomes := h.becomes.trans h'.becomes
  owned := h.becomes.mount ▸ h'.owned
  inode := h'.inode.trans h.inode
  inodeUsed := h'.inodeUsed.trans h.inodeUsed
  mode := h'.mode.trans h.mode
  size := h'.size.trans h.size
  used p hp := h'.used p (h.used p hp)
  data p hp h12 hW := by
    have h12' : i'.block 12 ≠ p := h.slot_ne hp (.ptr 12) (Ne.symm h12)
    rw [h'.data p (h.used p hp) (Ne.symm h12') fun sl hsl => h.slot_ne hp sl (hW sl hsl),
      h.data p hp h12 hW]
  slots sl hsl := by
    have h₁ := h.slots sl hsl
    rw [h'.slots sl (h₁ ▸ hsl), h₁]
  fresh sl hsl := by
    by_cases h0 : (s'.view L).slot i' sl = 0
    · refine (h'.fresh sl h0).imp_right fun hfree => ?_
      by_contra hu
      rw [Bool.not_eq_false] at hu
      exact Bool.false_ne_true (hfree.symm.trans (h.used _ hu))
    · rw [h'.slots sl h0]
      exact h.fresh sl hsl
  others sl h12 hS := (h'.others sl h12 hS).trans (h.others sl h12 hS)

end Extends

lemma Extends.leak (hk : Working L n s i) {x : Nat}
    (hb : s.Becomes s' L
      { s.view L with blockUsed := update (s.view L).blockUsed x true }) :
    Extends L n S W s i s' i := by
  have hused : ∀ p, (s.view L).blockUsed p = true →
      update (s.view L).blockUsed x true p = true := by
    intro p hp
    by_cases hpx : p = x
    · subst hpx
      exact update_self _ _ _
    · rwa [update_of_ne hpx]
  have hv := hb.view
  refine ⟨hb.self, ?_, ?_, ?_, rfl, rfl, ?_, ?_, ?_, ?_, ?_⟩ <;> rw [hv]
  · exact ⟨hk.owned.exclusive.mono (fun _ _ _ hp => hp) fun _ _ _ _ hu => ⟨hused _ hu.1, hu.2⟩,
      fun b hm => hused b (hk.owned.metaUsed b hm)⟩
  · exact hused
  · exact fun _ _ _ _ => rfl
  · exact fun _ _ => rfl
  · exact fun _ h0 => Or.inl h0
  · exact fun _ _ _ => rfl

/-- A block that was free goes into an empty slot. -/
lemma Extends.grow (hk : Working L n s i) {x : Nat}
    (hfree : (s.view L).blockUsed x = false) (hb : s.Becomes s' L v)
    (hinode : v.inode = (s.view L).inode) (hiu : v.inodeUsed = (s.view L).inodeUsed)
    (hbits : v.blockUsed = update (s.view L).blockUsed x true)
    (hmode : i'.mode = i.mode) (hsize : i'.size = i.size)
    (hdata : ∀ p, (s.view L).blockUsed p = true → p ≠ i.block 12 → v.data p = (s.view L).data p)
    (sl₀ : PtrSlot) (hempty : (s.view L).slot i sl₀ = 0)
    (hslot : ∀ sl, v.slot i' sl = if sl = sl₀ then x else (s.view L).slot i sl)
    (hS : sl₀ = .ptr 12 ∨ S sl₀) : Extends L n S W s i s' i' := by
  obtain rfl := hb.view
  have hused : ∀ p, (s.view L).blockUsed p = true → (s'.view L).blockUsed p = true := by
    intro p hp
    rw [hbits]
    by_cases hpx : p = x
    · subst hpx
      exact update_self _ _ _
    · rwa [update_of_ne hpx]
  have hnew : (s'.view L).blockUsed x = true := by
    rw [hbits]
    exact update_self _ _ _
  have hmeta : ¬ L.IsMeta s.mount x := by
    intro hm
    have hux := hk.owned.metaUsed x hm
    exact Bool.false_ne_true (hfree.symm.trans hux)
  -- what the other inodes hold does not change
  have hother : ∀ m, m ≠ n → ∀ sl, (s'.view L).held m sl = (s.view L).held m sl := by
    intro m hm sl
    apply held_congr (congrFun hinode m) (congrFun hiu m)
    intro hom h12
    have hheld : ((s.view L).withInode n i).held m (.ptr 12) =
        some (((s.view L).inode m).block 12) := by
      rw [held_withInode_of_ne hm]
      exact held_eq_some.mpr ⟨hom, rfl, h12⟩
    refine hdata _ (hk.owned.exclusive.used hheld).1 fun he => hm ?_
    have hheld' : ((s.view L).withInode n i).held n (.ptr 12) =
        some (((s.view L).inode m).block 12) :=
      held_withInode_same.mpr ⟨hk.live, hk.notInline, he.symm, h12⟩
    exact (hk.owned.exclusive.unique hheld hheld').1
  have hptr : ∀ m sl p, ((s'.view L).withInode n i').held m sl = some p →
      ((s.view L).withInode n i).held m sl = some p ∨ m = n ∧ sl = sl₀ ∧ p = x := by
    intro m sl p hp
    by_cases hm : m = n
    · subst hm
      obtain ⟨-, -, hp, hne⟩ := held_withInode_same.mp hp
      rw [hslot] at hp
      split_ifs at hp with hsl
      · exact Or.inr ⟨rfl, hsl, hp.symm⟩
      · exact Or.inl (held_withInode_same.mpr ⟨hk.live, hk.notInline, hp, hne⟩)
    · left
      rw [held_withInode_of_ne hm, hother m hm] at hp
      rwa [held_withInode_of_ne hm]
  refine ⟨hb, ⟨?_, ?_⟩, hinode, hiu, hmode, hsize, hused, fun p hp h12 _ => hdata p hp h12, ?_, ?_,
    ?_⟩
  · exact hk.owned.exclusive.grow (fun hx => Bool.false_ne_true (hfree.symm.trans hx.1)) hptr
      (fun p hp => ⟨hused p hp.1, hp.2⟩) ⟨hnew, hmeta⟩
  · exact fun b hm => hused b (hk.owned.metaUsed b hm)
  · intro sl hsl
    rw [hslot, if_neg]
    rintro rfl
    exact hsl hempty
  · intro sl h0
    rw [hslot]
    split_ifs
    · exact Or.inr hfree
    · exact Or.inl h0
  · intro sl h12 hnS
    rw [hslot, if_neg]
    rintro rfl
    rcases hS with h | h
    · exact h12 h
    · exact hnS h

/-- The indirect block of the inode, if it has one, is not a block of the metadata. -/
def IndirectOk (L : Ext2Layout) (m : Ext2MountState) (i : Ext2Inode) : Prop :=
  i.block 12 ≠ 0 → i.block 12 < m.totalBlocks ∧ ¬ L.IsMeta m (i.block 12)

/-- The number of block `index` of a file, `0` for a hole. -/
def fileBlock (v : Ext2View) (i : Ext2Inode) (index : Nat) : Nat :=
  ((fileSlot index).map (v.slot i)).getD 0

lemma inodeGetBlock_lookup (hs : s.HasLayout L) (hi : IndirectOk L s.mount i) (index : Nat) :
    inodeGetBlock s i index false = (s, i, fileBlock (s.view L) i index) := by
  unfold inodeGetBlock fileBlock fileSlot
  simp only [Bool.false_eq_true, and_false, if_false]
  split
  · rfl
  · have hptrs : inodePtrsPerBlock = 256 := rfl
    by_cases hj : index - 12 < 256
    · have hle : ¬ inodePtrsPerBlock ≤ index - 12 := by omega
      rw [if_neg hle, dif_pos hj]
      by_cases h12 : i.block 12 = 0
      · simp [h12, slot]
      · obtain ⟨hlt, hmeta⟩ := hi h12
        have hread : readBlock s (i.block 12) = some ((s.view L).data (i.block 12)) :=
          readBlock_data hs hlt hmeta
        simp [h12, slot, indirectGetBlock, hread]
    · have hle : inodePtrsPerBlock ≤ index - 12 := by omega
      rw [if_pos hle, dif_neg hj]
      rfl

lemma blockUsed_valid {p : Nat} (h : (s.view L).blockUsed p = true) : ValidBlock s.mount p := by
  simp only [Ext2.view, Ext2Layout.view, Bool.and_eq_true, decide_eq_true_eq] at h
  exact h.1

lemma blockUsed_not_badNum (hL : L.Fits s.mount) {p : Nat} (h : (s.view L).blockUsed p = true)
    (hp : p ≠ 0) : ¬ BadNum p := by
  have hv := (blockUsed_valid h).2
  have hle := hL.blocks
  unfold BadNum
  omega

/-- The number that a call for block `index` returned is that of the block in its place, and the
place was either empty, and the block free, or the block was there before. -/
def GotBlock (L : Ext2Layout) (s : Ext2) (i : Ext2Inode) (sl : PtrSlot) (s' : Ext2)
    (i' : Ext2Inode) (b : Nat) : Prop :=
  ¬ BadNum b ∧ (s'.view L).slot i' sl = b ∧
    ((s.view L).slot i sl = b ∨ (s.view L).slot i sl = 0 ∧ (s.view L).blockUsed b = false)

section

variable (hk : Working L n s i)
include hk

lemma slot_dataBlock (sl : PtrSlot) (hsl : (s.view L).slot i sl ≠ 0) :
    (s.view L).blockUsed ((s.view L).slot i sl) = true ∧
      ¬ L.IsMeta s.mount ((s.view L).slot i sl) :=
  hk.owned.exclusive.used (held_withInode_same.mpr ⟨hk.live, hk.notInline, rfl, hsl⟩)

lemma gotBlock_self (sl : PtrSlot) (hsl : (s.view L).slot i sl ≠ 0) :
    GotBlock L s i sl s i ((s.view L).slot i sl) :=
  ⟨blockUsed_not_badNum hk.layout.fits (slot_dataBlock hk sl hsl).1 hsl, rfl, Or.inl rfl⟩

/-- A block is added to the indirect block. -/
lemma indirectGetBlock_create (h12 : i.block 12 ≠ 0) (j : Fin 256) :
    Extends L n (· = .entry j) W s i (indirectGetBlock s (i.block 12) j true).1 i ∧
      ((indirectGetBlock s (i.block 12) j true).2 = 0 ∨
        GotBlock L s i (.entry j) (indirectGetBlock s (i.block 12) j true).1 i
          (indirectGetBlock s (i.block 12) j true).2) := by
  obtain ⟨hused, hmeta⟩ := slot_dataBlock hk (.ptr 12) h12
  have hlt := (blockUsed_valid hused).2
  have hslotj : (s.view L).slot i (.entry j) = ((s.view L).data (i.block 12)).le32 (4 * j) := by
    simp only [slot, if_neg h12]
  have hread : readBlock s (i.block 12) = some ((s.view L).data (i.block 12)) :=
    readBlock_data hk.layout hlt hmeta
  simp only [indirectGetBlock, hread, and_true]
  by_cases hzero : ((s.view L).data (i.block 12)).le32 (4 * j) = 0
  · rw [if_pos hzero]
    rcases allocGoodBlock_spec hk.layout with ⟨hnone, hstate⟩ | ⟨hnone, x, hx, hb⟩ |
      ⟨x, hsome, hgood, hx, hfree, hb⟩
    · simp only [hnone, hstate]
      exact ⟨.refl hk, Or.inl trivial⟩
    · simp only [hnone]
      exact ⟨.leak hk hb, Or.inl trivial⟩
    · simp only [hsome]
      set buf : Ext2Block := ((s.view L).data (i.block 12)).setLe32 (4 * j) x with hbuf
      have hlt' : i.block 12 < (allocGoodBlock s).1.mount.totalBlocks := by
        rw [hb.mount]
        exact hlt
      have hmeta' : ¬ L.IsMeta (allocGoodBlock s).1.mount (i.block 12) := by
        rw [hb.mount]
        exact hmeta
      have hw := hb.trans (writeBlock_data hb.layout hlt' hmeta' buf)
      rw [hb.view] at hw
      have hxlt := hk.layout.block_lt hx
      have hslot : ∀ sl, slot { s.view L with
            blockUsed := update (s.view L).blockUsed x true
            data := update (s.view L).data (i.block 12) buf } i sl =
          if sl = .entry j then x else (s.view L).slot i sl := by
        intro sl
        cases sl with
        | ptr k => simp [slot]
        | entry k =>
          simp only [slot, if_neg h12, update_self, PtrSlot.entry.injEq]
          split_ifs with hkj
          · subst hkj
            rw [hbuf, Bytes.le32_setLe32_same _ _ (by omega), Nat.mod_eq_of_lt hxlt]
          · rw [hbuf, Bytes.le32_setLe32_disjoint]
            omega
      refine ⟨Extends.grow hk hfree hw rfl rfl rfl rfl rfl ?_ (.entry j)
        (hslotj.trans hzero) hslot (Or.inr rfl), Or.inr ⟨hgood, ?_, Or.inr ⟨hslotj.trans hzero, hfree⟩⟩⟩
      · intro p _ hp
        exact update_of_ne hp _ _
      · rw [hw.view, hslot, if_pos rfl]
  · rw [if_neg hzero]
    refine ⟨.refl hk, Or.inr ?_⟩
    rw [← hslotj] at hzero ⊢
    exact gotBlock_self hk _ hzero

lemma extends_direct {k x : Nat} (hlt : k < 12) (hzero : i.block k = 0)
    (hx : ValidBlock s.mount x) (hfree : (s.view L).blockUsed x = false)
    (hb : s.Becomes s' L
      { s.view L with blockUsed := update (s.view L).blockUsed x true }) :
    Extends L n (· = .ptr ⟨k, by omega⟩) W s i s' (i.setBlock k x) ∧
      (s'.view L).slot (i.setBlock k x) (.ptr ⟨k, by omega⟩) = x := by
  have hxlt := hk.layout.block_lt hx
  have hslot : ∀ sl, slot { s.view L with
        blockUsed := update (s.view L).blockUsed x true } (i.setBlock k x) sl =
      if sl = .ptr ⟨k, by omega⟩ then x else (s.view L).slot i sl := by
    intro sl
    cases sl with
    | ptr k' =>
      simp only [slot, PtrSlot.ptr.injEq]
      split_ifs with hk'
      · subst hk'
        exact Ext2Inode.block_setBlock_same i (by omega) hxlt
      · apply Ext2Inode.block_setBlock_of_ne
        intro he
        exact hk' (Fin.ext he)
    | entry j =>
      have h12 : (i.setBlock k x).block 12 = i.block 12 :=
        Ext2Inode.block_setBlock_of_ne i (by omega) x
      simp only [slot, h12, reduceCtorEq, if_false]
  refine ⟨Extends.grow hk hfree hb rfl rfl rfl (by simp) (Ext2Inode.size_setBlock i _ _)
    (fun _ _ _ => rfl) (.ptr ⟨k, by omega⟩) hzero hslot (Or.inr rfl), ?_⟩
  rw [hb.view, hslot, if_pos rfl]

lemma extends_indirect (h12 : i.block 12 = 0) {x : Nat} (hx : ValidBlock s.mount x)
    (hgood : ¬ BadNum x) (hfree : (s.view L).blockUsed x = false)
    (hb : s.Becomes s' L
      { s.view L with blockUsed := update (s.view L).blockUsed x true }) :
    Extends L n S W s i (writeBlock s' x Bytes.zero) (i.setBlock 12 x) ∧
      (i.setBlock 12 x).block 12 = x := by
  have hmeta : ¬ L.IsMeta s.mount x := fun hm =>
    Bool.false_ne_true (hfree.symm.trans (hk.owned.metaUsed x hm))
  have hlt' : x < s'.mount.totalBlocks := by
    rw [hb.mount]
    exact hx.2
  have hmeta' : ¬ L.IsMeta s'.mount x := by
    rw [hb.mount]
    exact hmeta
  have hxlt := hk.layout.block_lt hx
  have hx0 : x ≠ 0 := fun h0 => hgood (Or.inl h0)
  have hnew : (i.setBlock 12 x).block 12 = x := Ext2Inode.block_setBlock_same i (by omega) hxlt
  have hw := hb.trans (writeBlock_data hb.layout hlt' hmeta' Bytes.zero)
  rw [hb.view] at hw
  refine ⟨Extends.grow hk hfree hw rfl rfl rfl (by simp) (Ext2Inode.size_setBlock i _ _)
    ?_ (.ptr 12) h12 ?_ (Or.inl rfl), hnew⟩
  · intro p hp _
    apply update_of_ne
    rintro rfl
    exact Bool.false_ne_true (hfree.symm.trans hp)
  · intro sl
    cases sl with
    | ptr k =>
      simp only [slot, PtrSlot.ptr.injEq]
      split_ifs with hk
      · subst hk
        exact hnew
      · apply Ext2Inode.block_setBlock_of_ne
        intro he
        exact hk (Fin.ext he)
    | entry j =>
      have hzero : Bytes.le32 (Bytes.zero : Ext2Block) (4 * j) = 0 := by
        simp [Bytes.le32, Bytes.slice, Le.value]
      simp only [slot, hnew, if_neg hx0, update_self, h12, if_true, reduceCtorEq, if_false,
        hzero]

/-- What a call for block `index` does, with `create` set. -/
theorem inodeGetBlock_create (index : Nat) :
    Extends L n (fun sl => fileSlot index = some sl) W s i (inodeGetBlock s i index true).1
        (inodeGetBlock s i index true).2.1 ∧
      ((inodeGetBlock s i index true).2.2 = 0 ∨
        ∃ sl, fileSlot index = some sl ∧ GotBlock L s i sl (inodeGetBlock s i index true).1
          (inodeGetBlock s i index true).2.1 (inodeGetBlock s i index true).2.2) := by
  unfold inodeGetBlock
  simp only [and_true]
  split
  · rename_i hlt
    have hfile : fileSlot index = some (.ptr ⟨index, by omega⟩) := by
      rw [fileSlot, dif_pos hlt]
    by_cases hzero : i.block index = 0
    · rw [if_pos hzero]
      rcases allocGoodBlock_spec hk.layout with ⟨hnone, hstate⟩ | ⟨hnone, x, hx, hb⟩ |
        ⟨x, hsome, hgood, hx, hfree, hb⟩
      · simp only [hnone, hstate]
        exact ⟨.refl hk, Or.inl trivial⟩
      · simp only [hnone]
        exact ⟨.leak hk hb, Or.inl trivial⟩
      · simp only [hsome]
        obtain ⟨hext, hslot⟩ := extends_direct (W := W) hk hlt hzero hx hfree hb
        exact ⟨hext.mono (fun sl h => h ▸ hfile) fun _ h => h,
          Or.inr ⟨_, hfile, hgood, hslot, Or.inr ⟨hzero, hfree⟩⟩⟩
    · rw [if_neg hzero]
      refine ⟨.refl hk, Or.inr ⟨_, hfile, ?_⟩⟩
      exact gotBlock_self hk (.ptr ⟨index, by omega⟩) hzero
  · rename_i hge
    split
    · exact ⟨.refl hk, Or.inl rfl⟩
    · rename_i hptrs
      have hj : index - 12 < 256 := by
        simp only [inodePtrsPerBlock, ext2BlockSize] at hptrs
        omega
      have hfile : fileSlot index = some (.entry ⟨index - 12, hj⟩) := by
        rw [fileSlot, dif_neg hge, dif_pos hj]
      have hS : ∀ sl, sl = .entry ⟨index - 12, hj⟩ → fileSlot index = some sl := by
        rintro sl rfl
        exact hfile
      by_cases h12 : i.block 12 = 0
      · simp only [if_pos h12, Bool.not_true, Bool.false_eq_true, if_false]
        rcases allocGoodBlock_spec hk.layout with ⟨hnone, hstate⟩ | ⟨hnone, x, hx, hb⟩ |
          ⟨x, hsome, hgood, hx, hfree, hb⟩
        · simp only [hnone, hstate]
          exact ⟨.refl hk, Or.inl trivial⟩
        · simp only [hnone]
          exact ⟨.leak hk hb, Or.inl trivial⟩
        · simp only [hsome]
          obtain ⟨hext, hind⟩ := extends_indirect (S := fun _ => False) (W := W) hk h12 hx hgood
            hfree hb
          have h12' : (i.setBlock 12 x).block 12 ≠ 0 := by
            rw [hind]
            exact fun h0 => hgood (Or.inl h0)
          obtain ⟨hext', hres⟩ := indirectGetBlock_create (W := W) (hext.working hk) h12'
            ⟨index - 12, hj⟩
          rw [hind] at hext' hres
          refine ⟨(hext.mono (fun _ h => h.elim) fun _ h => h).trans (hext'.mono hS fun _ h => h), ?_⟩
          rcases hres with h0 | ⟨hgood', hb', hold⟩
          · exact Or.inl h0
          · refine Or.inr ⟨_, hfile, hgood', hb', Or.inr ⟨?_, ?_⟩⟩
            · simp only [slot, if_pos h12]
            · rcases hold with hold | ⟨-, hfree'⟩
              · -- the new indirect block is empty
                rw [hext.others _ (by simp) fun h => h] at hold
                simp only [slot, if_pos h12] at hold
                exact absurd (Or.inl hold.symm) hgood'
              · by_contra hu
                rw [Bool.not_eq_false] at hu
                exact Bool.false_ne_true (hfree'.symm.trans (hext.used _ hu))
      · simp only [if_neg h12]
        obtain ⟨hext, hres⟩ := indirectGetBlock_create (W := W) hk h12 ⟨index - 12, hj⟩
        exact ⟨hext.mono hS fun _ h => h, hres.imp_right fun h => ⟨_, hfile, h⟩⟩

lemma Extends.write {sl : PtrSlot} (hsl : sl ≠ .ptr 12) (hW : W sl)
    (hne : (s.view L).slot i sl ≠ 0) (buf : Ext2Block) :
    Extends L n S W s i (writeBlock s ((s.view L).slot i sl) buf) i ∧
      (writeBlock s ((s.view L).slot i sl) buf).view L =
        { s.view L with data := update (s.view L).data ((s.view L).slot i sl) buf } := by
  obtain ⟨hused, hmeta⟩ := slot_dataBlock hk sl hne
  have hheld : ((s.view L).withInode n i).held n sl = some ((s.view L).slot i sl) :=
    held_withInode_same.mpr ⟨hk.live, hk.notInline, rfl, hne⟩
  have hb := writeBlock_data hk.layout (blockUsed_valid hused).2 hmeta buf
  have hv := hb.view
  have hslot : ∀ sl', slot { s.view L with
      data := update (s.view L).data ((s.view L).slot i sl) buf } i sl' =
        (s.view L).slot i sl' := by
    apply slot_congr
    intro h12
    apply update_of_ne
    intro he
    refine hk.owned.ne_indirect hheld hsl n ?_
    rw [held_withInode_same]
    exact ⟨hk.live, hk.notInline, he, hne⟩
  refine ⟨⟨hb.self, ?_, ?_, ?_, rfl, rfl, ?_, ?_, ?_, ?_, ?_⟩, hv⟩ <;> rw [hv]
  · exact hk.owned.setData (hk.owned.ne_indirect hheld hsl) buf
  · exact fun _ hp => hp
  · intro p _ _ hp
    exact update_of_ne (hp sl hW).symm _ _
  · exact fun sl' _ => hslot sl'
  · intro sl' h0
    exact Or.inl ((hslot sl').trans h0)
  · exact fun sl' _ _ => hslot sl'

end

end NeuroSpark
