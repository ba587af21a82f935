import NeuroSpark.Ext2.Runs

/-!
# Writing a file and reading it back

The contents of a file without holes are the bytes of its blocks. `ext2_read` returns them, and
`ext2_write` replaces a part of them and leaves what can be read from any other inode as it is.
-/

namespace NeuroSpark

open Word Ext2View

variable {L : Ext2Layout} {n : Nat} {s s' : Ext2} {i i' i'' : Ext2Inode} {v v' v'' : Ext2View}
  {pos : Nat}

/-- The file has a block for this position. -/
def Mapped (v : Ext2View) (i : Ext2Inode) (x : Nat) : Prop := fileBlock v i (x / 1024) ≠ 0

def fileByte (v : Ext2View) (i : Ext2Inode) (x : Nat) : UInt8 :=
  (v.data (fileBlock v i (x / 1024))).get (x % 1024)

def fileContents (v : Ext2View) (i : Ext2Inode) : List UInt8 :=
  (List.range i.size).map (fileByte v i)

/-- The number of bytes that the direct blocks and one indirect block hold. -/
def ext2MaxBytes : Nat := 268 * 1024

lemma fileSlot_lt {index : Nat} {sl : PtrSlot} (h : fileSlot index = some sl) : index < 268 := by
  unfold fileSlot at h
  split_ifs at h <;> omega

lemma Mapped.slot {x : Nat} (h : Mapped v i x) : ∃ sl, fileSlot (x / 1024) = some sl ∧
    v.slot i sl = fileBlock v i (x / 1024) ∧ v.slot i sl ≠ 0 := by
  obtain ⟨sl, hsl, he⟩ := fileBlock_eq_slot h
  exact ⟨sl, hsl, he, he ▸ h⟩

lemma Mapped.lt {x : Nat} (h : Mapped v i x) : x < ext2MaxBytes := by
  obtain ⟨sl, hsl, -⟩ := h.slot
  have := fileSlot_lt hsl
  unfold ext2MaxBytes
  omega

/-- The bytes `l` were written at position `a`, and the other bytes are as they were. -/
def Patched (v : Ext2View) (i : Ext2Inode) (v' : Ext2View) (i' : Ext2Inode) (a : Nat)
    (l : List UInt8) : Prop :=
  ∀ x, Mapped v i x ∨ a ≤ x ∧ x < a + l.length → Mapped v' i' x ∧
    fileByte v' i' x = if a ≤ x ∧ x < a + l.length then l.getD (x - a) 0 else fileByte v i x

lemma Patched.nil (v : Ext2View) (i : Ext2Inode) (a : Nat) : Patched v i v i a [] := by
  intro x hx
  have hno : ¬ (a ≤ x ∧ x < a + ([] : List UInt8).length) := by
    rw [List.length_nil]
    omega
  rw [if_neg hno]
  exact ⟨hx.resolve_right hno, rfl⟩

lemma Patched.append {a : Nat} {l l' : List UInt8} (h : Patched v i v' i' a l)
    (h' : Patched v' i' v'' i'' (a + l.length) l') : Patched v i v'' i'' a (l ++ l') := by
  intro x hx
  rw [List.length_append] at hx ⊢
  by_cases h₂ : a + l.length ≤ x ∧ x < a + l.length + l'.length
  · obtain ⟨hm, hb⟩ := h' x (Or.inr h₂)
    refine ⟨hm, ?_⟩
    rw [hb, if_pos h₂, if_pos (by omega), List.getD_append_right _ _ _ _ (by omega)]
    congr 1
    omega
  · have hfirst : Mapped v i x ∨ a ≤ x ∧ x < a + l.length := hx.imp_right fun _ => by omega
    obtain ⟨hm, hb⟩ := h x hfirst
    obtain ⟨hm', hb'⟩ := h' x (Or.inl hm)
    refine ⟨hm', ?_⟩
    rw [hb', if_neg h₂, hb]
    by_cases h₁ : a ≤ x ∧ x < a + l.length
    · rw [if_pos h₁, if_pos (by omega), List.getD_append _ _ _ _ (by omega)]
    · rw [if_neg h₁, if_neg (by omega)]

/-! ### One round of the loop of `ext2_write` -/

lemma Working.slot_inj (hk : Working L n s i) {sl : PtrSlot} (sl' : PtrSlot)
    (hne : (s.view L).slot i sl ≠ 0)
    (h : (s.view L).slot i sl' = (s.view L).slot i sl) : sl' = sl := by
  have hheld : ∀ sl, (s.view L).slot i sl ≠ 0 →
      ((s.view L).withInode n i).held n sl = some ((s.view L).slot i sl) := fun sl hne =>
    held_withInode_same.mpr ⟨hk.live, hk.notInline, rfl, hne⟩
  have h₁ := hheld sl' (h ▸ hne)
  rw [h] at h₁
  exact (hk.owned.exclusive.unique h₁ (hheld sl hne)).2

/-- A block is found or added for a position, and bytes of it are replaced. -/
lemma writeChunk_patched (hk : Working L n s i) (a : Nat) (l : List UInt8)
    (hl : a % 1024 + l.length ≤ 1024) (hgood : ¬ BadNum (inodeGetBlock s i (a / 1024) true).2.2) :
    a < ext2MaxBytes ∧ Patched (s.view L) i
      ((writeBlock (inodeGetBlock s i (a / 1024) true).1 (inodeGetBlock s i (a / 1024) true).2.2
        (((readBlock (inodeGetBlock s i (a / 1024) true).1
          (inodeGetBlock s i (a / 1024) true).2.2).getD Bytes.zero).patch (a % 1024) l)).view L)
      (inodeGetBlock s i (a / 1024) true).2.1 a l := by
  obtain ⟨hext, hres⟩ := inodeGetBlock_create (W := fun _ => False) hk (a / 1024)
  have hres := hres.resolve_left fun h0 => hgood (Or.inl h0)
  generalize inodeGetBlock s i (a / 1024) true = r at hext hres hgood ⊢
  obtain ⟨t, j, b⟩ := r
  obtain ⟨sl, hsl, hg⟩ := hres
  have hkt := hext.working hk
  obtain ⟨-, hview⟩ := hg.write (S := fun _ => True) hkt ⟨_, hsl⟩
    (((t.view L).data b).patch (a % 1024) l)
  rw [hg.read hkt, Option.getD_some, hview]
  obtain ⟨-, hslot, hold⟩ := hg
  have hb0 : b ≠ 0 := fun h0 => hgood (Or.inl h0)
  refine ⟨?_, fun x hx => ?_⟩
  · have := fileSlot_lt hsl
    unfold ext2MaxBytes
    omega
  have hne : (t.view L).slot j sl ≠ 0 := hslot ▸ hb0
  -- the write changes no pointer
  set buf : Ext2Block := ((t.view L).data b).patch (a % 1024) l with hbuf
  have hsame : ∀ sl', slot { t.view L with data := Function.update (t.view L).data b buf } j sl' =
      (t.view L).slot j sl' := by
    refine slot_congr fun _ => Function.update_of_ne (fun he => ?_) _ _
    exact fileSlot_ne_ptr hsl (k := 12) (by decide)
      (hkt.slot_inj (.ptr 12) hne (he.trans hslot.symm)).symm
  -- no data block of the file changed while the block was looked for
  have hkeep : ∀ sl', sl' ≠ .ptr 12 → (s.view L).slot i sl' ≠ 0 →
      (t.view L).data ((s.view L).slot i sl') = (s.view L).data ((s.view L).slot i sl') := by
    intro sl' h12 hne'
    refine hext.data _ (slot_dataBlock hk sl' hne').1 (fun he => ?_) fun _ h => h.elim
    have h12' : (s.view L).slot i (.ptr 12) ≠ 0 := fun h0 => hne' (he.trans h0)
    exact h12 (hk.slot_inj sl' h12' he)
  by_cases hidx : x / 1024 = a / 1024
  · have hblock : fileBlock { t.view L with data := Function.update (t.view L).data b buf } j
        (x / 1024) = b := by
      simp only [fileBlock, hidx, hsl, Option.map_some, Option.getD_some, hsame, hslot]
    refine ⟨by rw [Mapped, hblock]; exact hb0, ?_⟩
    simp only [fileByte, hblock, Function.update_self]
    split_ifs with hin
    · have hoff : x % 1024 = a % 1024 + (x - a) := by omega
      rw [hoff, Bytes.get_patch_of_mem _ _ _ _ (by omega) (by omega), List.getD_eq_getElem]
    · have hmap := hx.resolve_right hin
      have hfile : fileBlock (s.view L) i (x / 1024) = (s.view L).slot i sl := by
        simp only [fileBlock, hidx, hsl, Option.map_some, Option.getD_some]
      have hb : (s.view L).slot i sl = b := by
        rcases hold with hb | ⟨h0, -⟩
        · exact hb
        · exact absurd (hfile.trans h0) hmap
      have hdata := hkeep sl (fileSlot_ne_ptr hsl (by decide)) (hb ▸ hb0)
      rw [hb] at hdata
      rw [hfile, hb, ← hdata]
      by_cases hlt : x % 1024 < a % 1024
      · exact Bytes.get_patch_of_lt _ _ hlt
      · exact Bytes.get_patch_of_ge _ _ (by omega)
  · have hin : ¬ (a ≤ x ∧ x < a + l.length) := by omega
    obtain ⟨sl', hsl', he, hne'⟩ := (hx.resolve_right hin).slot
    have h₁ := hext.slots sl' hne'
    have hblock : fileBlock { t.view L with data := Function.update (t.view L).data b buf } j
        (x / 1024) = (s.view L).slot i sl' := by
      simp only [fileBlock, hsl', Option.map_some, Option.getD_some, hsame, h₁]
    have hneb : (s.view L).slot i sl' ≠ b := by
      intro hb
      have hinj := hkt.slot_inj sl' hne (by rw [h₁, hb, hslot])
      subst hinj
      exact hidx (fileSlot_inj hsl' hsl)
    refine ⟨by rw [Mapped, hblock]; exact hne', ?_⟩
    rw [if_neg hin]
    simp only [fileByte, hblock, Function.update_of_ne hneb, ← he]
    rw [hkeep sl' (fileSlot_ne_ptr hsl' (by decide)) hne']

/-- The loop of `ext2_write`, from some round on. -/
lemma ext2WriteLoop_patched {src : List UInt8} {fuel total t : Nat} (hk : Working L n s i)
    (htotal : total ≤ src.length) (hfuel : src.length ≤ total + fuel)
    (hpos : pos + total ≤ ext2MaxBytes)
    (h : ext2WriteLoop pos src fuel s i total = (s', i', some t)) :
    t = src.length ∧ pos + t ≤ ext2MaxBytes ∧
      Patched (s.view L) i (s'.view L) i' (pos + total) (src.drop total) := by
  induction fuel generalizing s i total with
  | zero =>
    obtain rfl : total = src.length := by omega
    cases h
    rw [List.drop_length]
    exact ⟨rfl, hpos, .nil _ _ _⟩
  | succ fuel ih =>
    rw [ext2WriteLoop] at h
    split_ifs at h with hlt
    · have hmax : ext2MaxBytes = 274432 := rfl
      have habs : u32 (pos + total) = pos + total := u32_of_lt (by omega)
      obtain ⟨hext, hres⟩ := getBlock_extends hk ((pos + total) / 1024)
      have hchunk := writeChunk_patched (L := L) hk (pos + total)
        ((src.drop total).take (min (1024 - (pos + total) % 1024) (src.length - total)))
        (by rw [List.length_take]; omega)
      simp only [habs, ext2BlockSize] at h
      split_ifs at h with hbad
      · cases h
      obtain ⟨sl, hsl, hg⟩ := hres.resolve_left hbad
      have hkt := hext.working hk
      obtain ⟨ha, hpatch⟩ := hchunk hbad
      have hext' := fun buf => hext.trans (hg.write hkt hsl buf).1
      have hlen : ((src.drop total).take (min (1024 - (pos + total) % 1024)
          (src.length - total))).length = min (1024 - (pos + total) % 1024) (src.length - total) := by
        rw [List.length_take, List.length_drop]
        omega
      generalize hc : min (1024 - (pos + total) % 1024) (src.length - total) = chunk
        at h hpatch hlen hext'
      obtain ⟨ht, hle, hrest⟩ := ih ((hext' _).working hk) (by omega) (by omega) (by omega) h
      refine ⟨ht, hle, ?_⟩
      have hnext : pos + (total + chunk) = pos + total +
          ((src.drop total).take chunk).length := by rw [hlen, Nat.add_assoc]
      rw [hnext] at hrest
      have happ := hpatch.append hrest
      rwa [← List.drop_drop, List.take_append_drop] at happ
    · obtain rfl : total = src.length := by omega
      cases h
      rw [List.drop_length]
      exact ⟨rfl, hpos, .nil _ _ _⟩

/-! ### Reading -/

lemma ext2ReadLoop_eq (hk : Working L n s i) {pos size fuel : Nat} {acc : List UInt8}
    (hmap : ∀ x, pos ≤ x → x < pos + size → Mapped (s.view L) i x) (hacc : acc.length ≤ size)
    (hfuel : size ≤ acc.length + fuel) (hlt : pos + size < 4294967296) :
    ext2ReadLoop s i pos size fuel acc = some (acc ++
      (List.range' (pos + acc.length) (size - acc.length)).map (fileByte (s.view L) i)) := by
  induction fuel generalizing acc with
  | zero =>
    have h0 : size - acc.length = 0 := by omega
    rw [ext2ReadLoop, h0]
    simp
  | succ fuel ih =>
    rw [ext2ReadLoop]
    split_ifs with hmore
    · have habs : u32 (pos + acc.length) = pos + acc.length := u32_of_lt (by omega)
      obtain ⟨sl, hsl, he, hne⟩ := (hmap (pos + acc.length) (by omega) (by omega)).slot
      obtain ⟨hused, hmeta⟩ := slot_dataBlock hk sl hne
      have hind : IndirectOk L s.mount i := by
        intro h12
        obtain ⟨hu, hm⟩ := slot_dataBlock hk (.ptr 12) h12
        exact ⟨(blockUsed_valid hu).2, hm⟩
      have hread := readBlock_data hk.layout (blockUsed_valid hused).2 hmeta
      have hgood := blockUsed_not_badNum hk.layout.fits hused hne
      simp only [habs, ext2BlockSize, inodeGetBlock_lookup hk.layout hind, ← he, if_neg hgood, hread]
      generalize hc : min (1024 - (pos + acc.length) % 1024) (size - acc.length) = chunk
      -- the bytes of the chunk all lie in this block
      have hslice : ((s.view L).data ((s.view L).slot i sl)).slice
          ((pos + acc.length) % 1024) chunk =
          (List.range' (pos + acc.length) chunk).map (fileByte (s.view L) i) := by
        rw [Bytes.slice, List.range'_eq_map_range, List.map_map]
        refine List.map_congr_left fun k hk => ?_
        have hk := List.mem_range.mp hk
        have hdiv : (pos + acc.length + k) / 1024 = (pos + acc.length) / 1024 := by omega
        have hmod : (pos + acc.length + k) % 1024 = (pos + acc.length) % 1024 + k := by omega
        simp only [Function.comp_apply, fileByte, hdiv, hmod, he]
      have hlen : (acc ++ (List.range' (pos + acc.length) chunk).map
          (fileByte (s.view L) i)).length = acc.length + chunk := by simp
      rw [hslice, ih (by omega) (by omega), hlen, List.append_assoc,
        ← List.map_append, ← Nat.add_assoc, List.range'_append_1]
      have hsum : chunk + (size - (acc.length + chunk)) = size - acc.length := by omega
      rw [hsum]
    · have h0 : size - acc.length = 0 := by omega
      rw [h0]
      simp

/-- Every call of `ext2_read` through a handle on inode `n` returns the bytes from its position on.
-/
def ReadsAs (s : Ext2) (n : Nat) (bytes : List UInt8) : Prop :=
  ∀ h x count, h < ext2MaxHandles → x.used = true → ext2Readable x.flags → x.inodeNum = n →
    (ext2Read (s.setHandle h x) h count).2 = .ok ((bytes.drop x.pos).take count)

/-- Every position of the file has a block. -/
def NoHoles (s : Ext2) (n : Nat) : Prop :=
  ∀ inode, readInode s n = some inode → ∀ x < inode.size,
    (inodeGetBlock s inode (x / ext2BlockSize) false).2.2 ≠ 0

lemma NoHoles.mapped (h : NoHoles s n) (hs : s.InOrder L) (hn : (s.view L).Owner n) {x : Nat}
    (hx : x < ((s.view L).inode n).size) : Mapped (s.view L) ((s.view L).inode n) x := by
  have hx := h _ (readInode_eq hs.layout (inodeUsed_valid hn.1)) x hx
  rwa [inodeGetBlock_lookup hs.layout (hs.owned.slotsOk hn).indirectOk] at hx

lemma drop_take_fileContents (v : Ext2View) (i : Ext2Inode) (pos count : Nat) :
    ((fileContents v i).drop pos).take count =
      (List.range' pos (min count (i.size - pos))).map (fileByte v i) := by
  rw [fileContents, ← List.map_drop, ← List.map_take, List.range_eq_range', List.drop_range',
    Nat.zero_add, Nat.mul_one]
  rcases Nat.le_total count (i.size - pos) with h | h
  · rw [List.take_range'_of_length_ge h, Nat.min_eq_left h]
  · rw [List.take_range'_of_length_le h, Nat.min_eq_right h]

lemma readsAs_fileContents (hs : s.InOrder L) (hn : (s.view L).Owner n)
    (hmap : ∀ x < ((s.view L).inode n).size, Mapped (s.view L) ((s.view L).inode n) x) :
    ReadsAs s n (fileContents (s.view L) ((s.view L).inode n)) := by
  rintro h ⟨used, refCount, m, pos, flags⟩ count hh hused hflags hm
  dsimp only at hused hflags hm
  subst hused
  subst m
  have hopen : (s.setHandle h ⟨true, refCount, n, pos, flags⟩).IsOpen h := by
    refine ⟨hh, ?_⟩
    simp [Ext2.setHandle]
  have hhandle : (s.setHandle h ⟨true, refCount, n, pos, flags⟩).handles h =
    ⟨true, refCount, n, pos, flags⟩ := Function.update_self _ _ _
  have hread : readInode (s.setHandle h ⟨true, refCount, n, pos, flags⟩) n =
    some ((s.view L).inode n) := readInode_eq hs.layout (inodeUsed_valid hn.1)
  unfold ext2Read
  rw [if_neg (not_not.mpr hopen), hhandle]
  rw [if_neg (not_not.mpr hflags), hread]
  dsimp only
  rw [drop_take_fileContents]
  split_ifs with hpos
  · have h0 : min count (((s.view L).inode n).size - pos) = 0 := by omega
    rw [h0]
    rfl
  · have hsize : ((s.view L).inode n).size < 4294967296 := Bytes.le32_lt _ _
    have hio := hs.setHandle h ⟨true, refCount, n, pos, flags⟩
    have hk := hio.owned.working hio.layout hn
    rw [view_setHandle] at hk
    rw [ext2ReadLoop_eq hk (fun x hx hx' => hmap x (by omega)) (Nat.zero_le _)
      (by omega) (by omega)]
    rfl

/-! ### Other inodes -/

/-- An inode has the same blocks with the same data in two states. -/
structure SameBlocks (s s' : Ext2) (i : Ext2Inode) : Prop where
  stack : s'.stack = s.stack
  number : ∀ k, (inodeGetBlock s' i k false).2.2 = (inodeGetBlock s i k false).2.2
  data : ∀ k, ¬ BadNum (inodeGetBlock s i k false).2.2 →
    readBlock s' (inodeGetBlock s i k false).2.2 = readBlock s (inodeGetBlock s i k false).2.2

lemma SameBlocks.trans {t : Ext2} (h : SameBlocks s s' i) (h' : SameBlocks s' t i) :
    SameBlocks s t i := by
  refine ⟨h'.stack.trans h.stack, fun k => (h'.number k).trans (h.number k), fun k hgood => ?_⟩
  have hd := h'.data k (by rwa [h.number k])
  rw [h.number k] at hd
  rw [hd, h.data k hgood]

lemma SameBlocks.readLoop (h : SameBlocks s s' i) (pos size fuel : Nat) (acc : List UInt8) :
    ext2ReadLoop s' i pos size fuel acc = ext2ReadLoop s i pos size fuel acc := by
  induction fuel generalizing acc with
  | zero => rfl
  | succ fuel ih =>
    simp only [ext2ReadLoop, h.number]
    split_ifs with hmore hbad
    · rfl
    · rw [h.data _ hbad]
      split
      · rfl
      · exact ih _
    · rfl

lemma SameBlocks.dirBlock (h : SameBlocks s s' i) (b : Nat) : dirBlock s' i b = dirBlock s i b := by
  simp only [NeuroSpark.dirBlock, h.number]
  split_ifs with hbad
  · rfl
  · rw [h.data _ hbad]

lemma SameBlocks.findEntry (h : SameBlocks s s' i) (blk : Ext2Block) (name : CString) :
    findEntry s' blk name = findEntry s blk name := by
  have hget : s'.bufferGet blk = s.bufferGet blk := by
    funext k
    rw [Ext2.bufferGet, Ext2.bufferGet, h.stack]
  have hname : entName s' blk = entName s blk := by
    funext off
    rw [entName, entName, hget]
  unfold NeuroSpark.findEntry
  rw [hname]

lemma sameBlocks_setHandle (s : Ext2) (h : Nat) (x : Ext2Handle) (i : Ext2Inode) :
    SameBlocks s (s.setHandle h x) i := by
  have hread : ∀ b, readBlock (s.setHandle h x) b = readBlock s b := fun _ => rfl
  refine ⟨rfl, fun k => ?_, fun k _ => hread _⟩
  simp only [inodeGetBlock, indirectGetBlock, hread, Bool.false_eq_true, and_false, if_false,
    Bool.not_false, if_true]
  split_ifs
  · rfl
  · rfl
  · rfl
  · split <;> rfl

/-- What can be read from an inode is the same in two states. -/
structure SameInode (s s' : Ext2) (m : Nat) : Prop where
  inode : readInode s' m = readInode s m
  blocks : ∀ inode, readInode s m = some inode → ¬ inode.InlineSymlink →
    (∀ name, dirLookup s' m name = dirLookup s m name) ∧
      ∀ h x count, x.inodeNum = m →
        (ext2Read (s'.setHandle h x) h count).2 = (ext2Read (s.setHandle h x) h count).2

lemma ext2Read_congr {m h : Nat} {x : Ext2Handle} (count : Nat) (hx : x.inodeNum = m)
    (hi : readInode s m = some i) (hi' : readInode s' m = some i) (hb : SameBlocks s s' i) :
    (ext2Read (s'.setHandle h x) h count).2 = (ext2Read (s.setHandle h x) h count).2 := by
  have hhandle : ∀ t : Ext2, (t.setHandle h x).handles h = x := fun _ => Function.update_self _ _ _
  have hopen : (s'.setHandle h x).IsOpen h ↔ (s.setHandle h x).IsOpen h := by
    simp only [Ext2.IsOpen, hhandle]
  have hr : ∀ t : Ext2, readInode (t.setHandle h x) m = readInode t m := fun _ => rfl
  have hl : ∀ (t : Ext2) pos size fuel acc,
      ext2ReadLoop (t.setHandle h x) i pos size fuel acc = ext2ReadLoop t i pos size fuel acc := by
    intro t pos size fuel acc
    exact (sameBlocks_setHandle t h x i).readLoop pos size fuel acc
  simp only [ext2Read, hhandle, hx, hr, hi, hi', hl, hb.readLoop, hopen]
  split_ifs
  · rfl
  · split <;> rfl
  · rfl
  · rfl

lemma SameInode.of_blocks {m : Nat} (hinode : readInode s' m = readInode s m)
    (hb : ∀ inode, readInode s m = some inode → ¬ inode.InlineSymlink → SameBlocks s s' inode) :
    SameInode s s' m := by
  refine ⟨hinode, fun inode hi hsym => ⟨fun name => ?_, fun h x count hx => ?_⟩⟩
  · have hblocks := hb inode hi hsym
    simp only [dirLookup, readDirInode, hinode, hi, Option.filter_some]
    split_ifs
    · simp only [hblocks.dirBlock, hblocks.findEntry]
    · rfl
  · exact ext2Read_congr count hx hi (hinode.trans hi) (hb inode hi hsym)

/-- Extending inode `n` and writing its data leaves every other live inode as it is. -/
lemma Extends.sameInode {S : PtrSlot → Prop} {j : Ext2Inode} {t : Ext2} {m : Nat}
    (h : Extends L n S IsFileSlot s ((s.view L).inode n) s' i') (hs : s.InOrder L)
    (hn : (s.view L).Owner n) (hb : s'.Becomes t L ((s'.view L).withInode n j)) (hm : m ≠ n)
    (hlive : (s.view L).inodeUsed m = true) (hd : Nat) (x : Ext2Handle) :
    SameInode s (t.setHandle hd x) m := by
  have hbec := h.becomes.trans hb
  have hview := hb.view
  have hvalid := inodeUsed_valid hlive
  have hinode : (t.view L).inode m = (s.view L).inode m := by
    rw [hview, withInode_inode_of_ne _ _ hm, h.inode]
  have hri : readInode t m = readInode s m := by
    rw [readInode_eq hs.layout hvalid, readInode_eq hbec.layout (by rwa [hbec.mount]), hinode]
  refine .of_blocks hri fun inode hi hsym => SameBlocks.trans ?_ (sameBlocks_setHandle t hd x inode)
  obtain ⟨-, rfl⟩ := readInode_eq_some hs.layout hi
  have hom : (s.view L).Owner m := ⟨hlive, hsym⟩
  -- a block of `m` is not one of `n`
  have hdata : ∀ sl, (s.view L).slot ((s.view L).inode m) sl ≠ 0 →
      (t.view L).data ((s.view L).slot ((s.view L).inode m) sl) =
        (s.view L).data ((s.view L).slot ((s.view L).inode m) sl) := by
    intro sl hne
    have hheld := held_eq_some.mpr ⟨hom, rfl, hne⟩
    have hother : ∀ sl', (s.view L).slot ((s.view L).inode n) sl' ≠
        (s.view L).slot ((s.view L).inode m) sl := fun sl' he =>
      hm (hs.owned.exclusive.unique hheld (held_eq_some.mpr ⟨hn, he, hne⟩)).1
    have hdata := h.data _ (hs.owned.dataBlock hheld).1 (fun he => hother (.ptr 12) he.symm)
      fun sl' _ => hother sl'
    rw [hview]
    exact hdata
  have hslot : ∀ sl, (t.view L).slot ((s.view L).inode m) sl =
      (s.view L).slot ((s.view L).inode m) sl :=
    slot_congr fun h12 => hdata (.ptr 12) h12
  have hind := (hs.owned.slotsOk hom).indirectOk
  have hind' : IndirectOk L t.mount ((s.view L).inode m) := by
    rw [hbec.mount]
    exact hind
  have hfile : ∀ k, fileBlock (t.view L) ((s.view L).inode m) k =
      fileBlock (s.view L) ((s.view L).inode m) k := by
    intro k
    simp only [fileBlock, funext hslot]
  refine ⟨hbec.stack, fun k => ?_, fun k hgood => ?_⟩
  · rw [inodeGetBlock_lookup hs.layout hind, inodeGetBlock_lookup hbec.layout hind']
    exact hfile k
  · rw [inodeGetBlock_lookup hs.layout hind] at hgood ⊢
    have hne : fileBlock (s.view L) ((s.view L).inode m) k ≠ 0 := fun h0 => hgood (Or.inl h0)
    obtain ⟨sl, hsl, he⟩ := fileBlock_eq_slot hne
    obtain ⟨hv, hmeta⟩ := hs.owned.slotsOk hom sl (he ▸ hne)
    rw [he] at hv hmeta
    dsimp only
    have hd := hdata sl (he ▸ hne)
    rw [he] at hd
    rw [readBlock_data hs.layout hv.2 hmeta, readBlock_data hbec.layout
      (by rw [hbec.mount]; exact hv.2) (by rw [hbec.mount]; exact hmeta), hd]

/-! ### The whole write -/

/-- The bytes of a list with `l` in place of those from position `pos` on. -/
def splice (old : List UInt8) (pos : Nat) (l : List UInt8) : List UInt8 :=
  old.take pos ++ l ++ old.drop (pos + l.length)

lemma length_splice {old l : List UInt8} (h : pos ≤ old.length) :
    (splice old pos l).length = max old.length (pos + l.length) := by
  simp only [splice, List.length_append, List.length_take, List.length_drop]
  omega

/-- The contents of the file after bytes were written inside or right behind it. -/
lemma Patched.fileContents {l : List UInt8} (h : Patched v i v' i' pos l)
    (hmap : ∀ x < i.size, Mapped v i x) (hpos : pos ≤ i.size)
    (hsize : i'.size = max i.size (pos + l.length)) :
    fileContents v' i' = splice (fileContents v i) pos l ∧ ∀ x < i'.size, Mapped v' i' x := by
  have hin : ∀ x < i'.size, Mapped v i x ∨ pos ≤ x ∧ x < pos + l.length := by
    intro x hx
    by_cases hold : x < i.size
    · exact Or.inl (hmap x hold)
    · exact Or.inr (by omega)
  refine ⟨?_, fun x hx => (h x (hin x hx)).1⟩
  have hlen : (NeuroSpark.fileContents v i).length = i.size := by simp [NeuroSpark.fileContents]
  apply List.ext_getElem
  · rw [length_splice (by rw [hlen]; exact hpos), hlen, NeuroSpark.fileContents, List.length_map,
      List.length_range, hsize]
  · intro x hx hx'
    have hx : x < i'.size := by simpa [NeuroSpark.fileContents] using hx
    have hbyte := (h x (hin x hx)).2
    simp only [NeuroSpark.fileContents, List.getElem_map, List.getElem_range, splice]
    rw [hbyte]
    split_ifs with hmid
    · rw [List.getElem_append_left (by simp; omega), List.getElem_append_right (by simp; omega),
        List.getD_eq_getElem _ _ (by omega)]
      congr 1
      simp
      omega
    · by_cases hlo : x < pos
      · rw [List.getElem_append_left (by simp; omega), List.getElem_append_left (by simp; omega)]
        simp
      · rw [List.getElem_append_right (by simp; omega)]
        simp only [List.getElem_drop, List.getElem_map, List.getElem_range]
        congr 1
        simp
        omega

/-- The inode that `ext2_write` stores. -/
def writtenInode (inode : Ext2Inode) (pos : Nat) : Ext2Inode :=
  let inode := if inode.size < pos then inode.setSize pos else inode
  inode.setBlocks (u32 (inode.size + 511) / 512)

lemma writtenInode_block (i : Ext2Inode) (pos k : Nat) :
    (writtenInode i pos).block k = i.block k := by
  rw [writtenInode, Ext2Inode.block_setBlocks]
  split_ifs
  · rw [Ext2Inode.block_setSize]
  · rfl

lemma writtenInode_mode (i : Ext2Inode) (pos : Nat) : (writtenInode i pos).mode = i.mode := by
  rw [writtenInode, Ext2Inode.mode_setBlocks]
  split_ifs
  · rw [Ext2Inode.mode_setSize]
  · rfl

lemma writtenInode_size (i : Ext2Inode) (h : pos < 4294967296) :
    (writtenInode i pos).size = max i.size pos := by
  rw [writtenInode, Ext2Inode.size_setBlocks]
  split_ifs
  · rw [Ext2Inode.size_setSize _ h]
    omega
  · omega

lemma slot_of_block {j : Ext2Inode} (h : ∀ k, j.block k = i.block k) (sl : PtrSlot) :
    v.slot j sl = v.slot i sl := by
  cases sl with
  | ptr k => exact h k
  | entry k => simp only [slot, h 12]

lemma ext2Write_ok {h k : Nat} {buf : List UInt8} (hw : (ext2Write s h buf).2 = .ok k) :
    ∃ inode t i', readInode s (s.handles h).inodeNum = some inode ∧
      ext2WriteLoop (s.handles h).pos buf buf.length s inode 0 = (t, i', some k) ∧
      (ext2Write s h buf).1 = (writeInode (t.setHandle h { s.handles h with
          pos := u32 ((s.handles h).pos + k) }) (s.handles h).inodeNum
        (writtenInode i' (u32 ((s.handles h).pos + k)))).1 := by
  by_cases hopen : s.IsOpen h
  swap
  · simp only [ext2Write, hopen, not_false_eq_true, if_true] at hw
    cases hw
  by_cases hwritable : ext2Writable (s.handles h).flags
  swap
  · simp only [ext2Write, hopen, hwritable, not_true_eq_false, not_false_eq_true, if_true,
      if_false] at hw
    cases hw
  cases hi : readInode s (s.handles h).inodeNum with
  | none =>
    simp only [ext2Write, hopen, hwritable, hi, not_true_eq_false, if_false] at hw
    cases hw
  | some inode =>
    rcases hloop : ext2WriteLoop (s.handles h).pos buf buf.length s inode 0 with ⟨t, i', total⟩
    cases total with
    | none =>
      simp only [ext2Write, hopen, hwritable, hi, hloop, not_true_eq_false, if_false] at hw
      cases hw
    | some total =>
      have heq : ext2Write s h buf =
          let w := writeInode (t.setHandle h { s.handles h with
            pos := u32 ((s.handles h).pos + total) }) (s.handles h).inodeNum
            (writtenInode i' (u32 ((s.handles h).pos + total)))
          if !w.2 then (w.1, .error .io) else (w.1, .ok total) := by
        simp only [ext2Write, hopen, hwritable, hi, hloop, not_true_eq_false, if_false]
        rfl
      rw [heq] at hw ⊢
      dsimp only at hw ⊢
      split at hw
      · cases hw
      · rename_i hok
        obtain rfl : total = k := Except.ok.inj hw
        rw [if_neg hok]
        exact ⟨inode, t, i', rfl, hloop, rfl⟩

/-- Writing to a file without holes, at a position in it or at its end, replaces the bytes from that
position on and nothing else; every other live inode stays as it is. -/
theorem ext2Write_readsBack {h k : Nat} {buf : List UInt8} (hs : s.InOrder L)
    (hn : TargetOk s (s.handles h).inodeNum) (hholes : NoHoles s (s.handles h).inodeNum)
    (hpos : ∀ inode, readInode s (s.handles h).inodeNum = some inode →
      (s.handles h).pos ≤ inode.size)
    (hw : (ext2Write s h buf).2 = .ok k) :
    k = buf.length ∧
      (∃ old inode, readInode s (s.handles h).inodeNum = some inode ∧ old.length = inode.size ∧
        ReadsAs s (s.handles h).inodeNum old ∧
        ReadsAs (ext2Write s h buf).1 (s.handles h).inodeNum (splice old (s.handles h).pos buf) ∧
        ∃ inode', readInode (ext2Write s h buf).1 (s.handles h).inodeNum = some inode' ∧
          inode'.size = max inode.size ((s.handles h).pos + k)) ∧
      ∀ m, m ≠ (s.handles h).inodeNum → inodeLive s m = true →
        SameInode s (ext2Write s h buf).1 m := by
  obtain ⟨inode, t, i', hi, hloop, hres⟩ := ext2Write_ok hw
  obtain ⟨hown, rfl⟩ := hn.owner hs.layout hi
  have hk := hs.owned.working hs.layout hown
  have hmap : ∀ x < ((s.view L).inode (s.handles h).inodeNum).size, Mapped (s.view L) _ x :=
    fun x hx => hholes.mapped hs hown hx
  have hpos := hpos _ hi
  have hmax : ext2MaxBytes = 274432 := rfl
  have hposlt : (s.handles h).pos ≤ ext2MaxBytes := by
    by_contra hc
    have := (hmap ext2MaxBytes (by omega)).lt
    omega
  obtain ⟨rfl, hle, hpatch⟩ := ext2WriteLoop_patched hk (Nat.zero_le _) (by omega) hposlt hloop
  have hext := ext2WriteLoop_extends (s.handles h).pos buf buf.length hk 0
  rw [hloop] at hext
  rw [Nat.add_zero, List.drop_zero] at hpatch
  have hu32 : u32 ((s.handles h).pos + buf.length) = (s.handles h).pos + buf.length :=
    u32_of_lt (by omega)
  rw [hu32, writeInode_setHandle] at hres
  rw [hres]
  generalize hj : writtenInode i' ((s.handles h).pos + buf.length) = j
  have hmode : j.mode = i'.mode := hj ▸ writtenInode_mode _ _
  have hblock : ∀ k, j.block k = i'.block k := hj ▸ writtenInode_block _ _
  have hsize : j.size = max ((s.view L).inode (s.handles h).inodeNum).size
      ((s.handles h).pos + buf.length) := by
    rw [← hj, writtenInode_size _ (by omega), hext.size]
  obtain ⟨-, hgrown, hview⟩ := hext.store hown hmode hblock
  have hvalid : ValidInode t.mount (s.handles h).inodeNum := by
    rw [hext.becomes.mount]
    exact inodeUsed_valid hown.1
  have hb := (writeInode_spec hext.becomes.layout hvalid j).2
  dsimp only at hgrown hview hb
  generalize { s.handles h with pos := (s.handles h).pos + buf.length } = x
  generalize (writeInode t (s.handles h).inodeNum j).1 = w at hgrown hview hb ⊢
  have hin : (w.view L).inode (s.handles h).inodeNum = j := by rw [hview, withInode_inode_same]
  -- the stored inode has the blocks of the one in memory
  have hpatch' : Patched (s.view L) ((s.view L).inode (s.handles h).inodeNum) (w.view L) j
      (s.handles h).pos buf := by
    have hslot : (w.view L).slot j = (t.view L).slot i' := by
      rw [hview]
      exact funext fun sl => slot_of_block hblock sl
    have hdata : (w.view L).data = (t.view L).data := by
      rw [hview]
      rfl
    intro y hy
    have h := hpatch y hy
    simp only [Mapped, fileByte, fileBlock, hslot, hdata] at h ⊢
    exact h
  obtain ⟨hcontents, hmap'⟩ := hpatch'.fileContents hmap hpos hsize
  have hown' : (w.view L).Owner (s.handles h).inodeNum := by
    refine ⟨(congrFun hgrown.inodeUsed _).trans hown.1, fun hsym => hown.2 ?_⟩
    rw [hin] at hsym
    obtain ⟨hsym, hshort⟩ := hsym
    rw [hmode, hext.mode] at hsym
    exact ⟨hsym, by omega⟩
  have hio := hgrown.inOrder.setHandle h x
  refine ⟨rfl, ⟨_, _, hi, by simp [NeuroSpark.fileContents], readsAs_fileContents hs hown hmap,
    ?_, j, ?_,
    hsize⟩, fun m hm hlive => ?_⟩
  · have hr := readsAs_fileContents hio hown' (by rw [view_setHandle, hin]; exact hmap')
    rw [view_setHandle, hin, hcontents] at hr
    exact hr
  · rw [readInode_eq hio.layout (inodeUsed_valid (s := w) hown'.1), view_setHandle, hin]
  · exact hext.sameInode hs hown (hb.cast rfl) hm ((inodeLive_eq hs.layout m).symm.trans hlive) h x

lemma sample_noHoles : NoHoles sample 3 := by
  intro inode hi x hx
  obtain ⟨-, rfl⟩ := readInode_eq_some sample_hasLayout hi
  rw [sample_inode.2.2] at hx ⊢
  have hsize : sampleFile.size = 14336 := by decide
  have hblocks : ∀ k ∈ List.range 14, (inodeGetBlock sample sampleFile k false).2.2 ≠ 0 := by
    decide
  refine hblocks _ (List.mem_range.mpr ?_)
  rw [ext2BlockSize]
  omega

/-- Three bytes are written at the start of a file of 14336. -/
theorem ext2Write_readsBack_sample :
    ∃ old, old.length = 14336 ∧ ReadsAs sample 3 old ∧
      ReadsAs (ext2Write sample 0 [1, 2, 3]).1 3 (splice old 0 [1, 2, 3]) := by
  have hn : TargetOk sample 3 := by
    intro inode hi
    refine ⟨by decide, ?_⟩
    obtain ⟨-, rfl⟩ := readInode_eq_some sample_hasLayout hi
    rw [sample_inode.2.2]
    decide
  have hw : (ext2Write sample 0 [1, 2, 3]).2 = .ok 3 := by decide
  obtain ⟨-, ⟨old, inode, hi, hlen, hold, hnew, -⟩, -⟩ := ext2Write_readsBack (h := 0)
    sample_inOrder hn sample_noHoles (fun _ _ => Nat.zero_le _) hw
  refine ⟨old, ?_, hold, hnew⟩
  obtain ⟨-, rfl⟩ := readInode_eq_some sample_hasLayout hi
  have hin : (sample.view sampleLayout).inode (sample.handles 0).inodeNum = sampleFile :=
    sample_inode.2.2
  rw [hlen, hin]
  decide

end NeuroSpark
