import NeuroSpark.Disk.FlatDisk
import NeuroSpark.Tfs.Model

/-!
# Data of the tiny file system

Byte `k` of the file in slot `i` is the byte `512 * lba + k` of the disk seen as one flat array
(`flatByte`). This file says what the read loop returns and what the write loop changes in those
terms, and what each change of the directory does to the fields of its entries.
-/

namespace NeuroSpark

open Word

/-! ### Directory entries -/

namespace TfsDirectory

/-- The three words of an entry: data sector, size and flags. -/
def words (d : TfsDirectory) (i : Fin 25) : Nat × Nat × Nat := (d.lba i, d.size i, d.flags i)

lemma words_of_get {d e : TfsDirectory} {i : Fin 25}
    (h : ∀ k, 24 * (i : Nat) + 12 ≤ k → k < 24 * (i : Nat) + 24 → d.get k = e.get k) :
    d.words i = e.words i := by
  have h1 : d.lba i = e.lba i := Bytes.le32_congr fun k hk => h _ (by omega) (by omega)
  have h2 : d.size i = e.size i := Bytes.le32_congr fun k hk => h _ (by omega) (by omega)
  have h3 : d.flags i = e.flags i := Bytes.le32_congr fun k hk => h _ (by omega) (by omega)
  simp only [words, h1, h2, h3]

lemma words_patch_of_ne (d : TfsDirectory) {i j : Fin 25} {off : Nat} (l : List UInt8)
    (hlo : 24 * (i : Nat) ≤ off) (hhi : off + l.length ≤ 24 * (i : Nat) + 24) (hj : j ≠ i) :
    words (d.patch off l) j = d.words j := by
  have hne : (j : Nat) ≠ i := fun h => hj (Fin.ext h)
  apply words_of_get
  intro k hk hk'
  rcases Nat.lt_or_gt_of_ne hne with h | h
  · exact Bytes.get_patch_of_lt _ _ (by omega)
  · exact Bytes.get_patch_of_ge _ _ (by omega)

section

variable (d : TfsDirectory) (i j : Fin 25)

lemma words_setName {nm : CString} (h : nm.length ≤ 11) : (d.setName i nm).words j = d.words j := by
  have hlen : (nm ++ [0]).length ≤ 12 := by simp; omega
  by_cases hj : j = i
  · exact words_of_get fun k hk _ => Bytes.get_patch_of_ge _ _ (by omega)
  · exact words_patch_of_ne d _ le_rfl (by omega) hj

lemma words_setLba (v : Nat) :
    (d.setLba i v).words j = if j = i then (u32 v, d.size i, d.flags i) else d.words j := by
  split_ifs with hj
  · subst hj
    simp only [words, lba, size, flags, setLba]
    rw [Bytes.le32_setLe32_same _ _ (by omega), Bytes.le32_setLe32_disjoint _ _ (by omega),
      Bytes.le32_setLe32_disjoint _ _ (by omega)]
    rfl
  · exact words_patch_of_ne d _ (by omega) (by simp) hj

lemma words_setSize (v : Nat) :
    (d.setSize i v).words j = if j = i then (d.lba i, u32 v, d.flags i) else d.words j := by
  split_ifs with hj
  · subst hj
    simp only [words, lba, size, flags, setSize]
    rw [Bytes.le32_setLe32_disjoint _ _ (by omega), Bytes.le32_setLe32_same _ _ (by omega),
      Bytes.le32_setLe32_disjoint _ _ (by omega)]
    rfl
  · exact words_patch_of_ne d _ (by omega) (by simp) hj

lemma words_setFlags (v : Nat) :
    (d.setFlags i v).words j = if j = i then (d.lba i, d.size i, u32 v) else d.words j := by
  split_ifs with hj
  · subst hj
    simp only [words, lba, size, flags, setFlags]
    rw [Bytes.le32_setLe32_disjoint _ _ (by omega), Bytes.le32_setLe32_disjoint _ _ (by omega),
      Bytes.le32_setLe32_same _ _ (by omega)]
    rfl
  · exact words_patch_of_ne d _ (by omega) (by simp) hj

lemma words_create {nm : CString} (h : nm.length ≤ 11) :
    (d.create i nm).words j = if j = i then (tfsDataStart + i, 0, 1) else d.words j := by
  have hs : ((d.setName i nm).setLba i (tfsDataStart + i)).words i =
      (tfsDataStart + i, (d.setName i nm).size i, (d.setName i nm).flags i) := by
    rw [words_setLba, if_pos rfl, u32_of_lt (by unfold tfsDataStart; omega)]
  have hs' := words_setSize ((d.setName i nm).setLba i (tfsDataStart + i)) i i 0
  rw [if_pos rfl] at hs'
  simp only [words, Prod.mk.injEq] at hs hs'
  rw [create, words_setFlags]
  split_ifs with hj
  · rw [hs'.1, hs.1, hs'.2.1]
    rfl
  · rw [words_setSize, if_neg hj, words_setLba, if_neg hj, words_setName d i j h]

lemma words_clearFileEntry :
    words (clearFileEntry d i) j = if j = i then (0, 0, 0) else d.words j := by
  set e : TfsDirectory := d.patch (24 * i) (List.replicate 12 0) with he
  have hs := words_setLba e i i 0
  have hs' := words_setSize (e.setLba i 0) i i 0
  rw [if_pos rfl] at hs hs'
  simp only [words, Prod.mk.injEq] at hs hs'
  simp only [clearFileEntry]
  rw [words_setFlags]
  split_ifs with hj
  · rw [hs'.1, hs.1, hs'.2.1]
    rfl
  · rw [words_setSize, if_neg hj, words_setLba, if_neg hj]
    exact words_patch_of_ne d _ le_rfl (by simp) hj

end

end TfsDirectory

lemma length_of_normalizeTfsName {path nm : CString} (h : normalizeTfsName path = some nm) :
    nm.length ≤ 11 := by
  rw [normalizeTfsName] at h
  split at h
  · cases h
  · cases h
    exact List.length_take_le _ _

/-- Byte `a` of a disk with contents `v`. -/
def flatByte (v : Nat → Sector) (a : Nat) : UInt8 := (v (a / 512)).get (a % 512)

lemma flatByte_update_patch (v : Nat → Sector) (l off : Nat) (bs : List UInt8)
    (h : off + bs.length ≤ 512) (a : Nat) :
    flatByte (Function.update v l ((v l).patch off bs)) a =
      if 512 * l + off ≤ a ∧ a < 512 * l + off + bs.length then bs.getD (a - (512 * l + off)) 0
      else flatByte v a := by
  unfold flatByte
  by_cases hl : a / 512 = l
  · subst hl
    rw [Function.update_self]
    split_ifs with hr
    · obtain ⟨j, hj⟩ : ∃ j, a % 512 = off + j := ⟨a % 512 - off, by omega⟩
      have hjl : j < bs.length := by omega
      have ha : a - (512 * (a / 512) + off) = j := by omega
      rw [ha, hj, Bytes.get_patch_of_mem _ _ _ _ hjl (by omega), List.getD_eq_getElem?_getD,
        List.getElem?_eq_getElem hjl, Option.getD_some]
    · rcases Nat.lt_or_ge (a % 512) off with hlt | hge
      · exact Bytes.get_patch_of_lt _ _ hlt
      · exact Bytes.get_patch_of_ge _ _ (by omega)
  · rw [Function.update_of_ne hl, if_neg]
    omega

/-! ### The loops -/

/-- The read loop appends the bytes from where it stands and leaves the disk; sector numbers wrap
around. -/
lemma tfsReadLoop_bytes (lba₀ pos size : Nat) (hpos : pos + size ≤ 4294967296) (fuel : Nat)
    {disk : Disk} (hd : disk.Ready) (sector : Sector) {acc : List UInt8} (hacc : acc.length ≤ size)
    (hfuel : size - acc.length ≤ fuel) :
    (tfsReadLoop lba₀ pos size fuel disk sector acc).1.Ready ∧
      (tfsReadLoop lba₀ pos size fuel disk sector acc).1.view = disk.view ∧
      (tfsReadLoop lba₀ pos size fuel disk sector acc).2 =
        acc ++ (List.range (size - acc.length)).map fun k =>
          (disk.view (u32 (lba₀ + (pos + acc.length + k) / 512))).get
            ((pos + acc.length + k) % 512) := by
  induction fuel generalizing disk sector acc with
  | zero =>
    have h0 : size - acc.length = 0 := by omega
    simp [tfsReadLoop, h0, hd]
  | succ fuel ih =>
    rw [tfsReadLoop]
    split_ifs with hlt
    · have habs : u32 (pos + acc.length) = pos + acc.length := u32_of_lt (by omega)
      simp only [habs]
      set lba := u32 (lba₀ + (pos + acc.length) / tfsSectorSize) with hlba
      obtain ⟨hg, hv, hdata⟩ := diskReadSector_spec hd lba sector
      set r := diskReadSector disk lba sector
      set off := (pos + acc.length) % tfsSectorSize with hoff
      set chunk := min (tfsSectorSize - off) (size - acc.length) with hchunk
      have hoff' : off = (pos + acc.length) % 512 := rfl
      have hc : chunk ≤ 512 - off ∧ chunk ≤ size - acc.length ∧ 0 < chunk := by
        simp only [hchunk, tfsSectorSize]
        omega
      have hlen : (acc ++ r.2.slice off chunk).length = acc.length + chunk := by simp
      have hle : (acc ++ r.2.slice off chunk).length ≤ size := by omega
      obtain ⟨hr, hvr, hb⟩ := ih hg r.2 hle (by omega)
      refine ⟨hr, hvr.trans hv, ?_⟩
      rw [hb, hv, hlen, List.append_assoc]
      congr 1
      -- the chunk copied now and the bytes still to come make up the rest
      have hsplit : size - acc.length = chunk + (size - (acc.length + chunk)) := by omega
      have hslice : r.2.slice off chunk = (List.range chunk).map fun k =>
          (disk.view (u32 (lba₀ + (pos + acc.length + k) / 512))).get
            ((pos + acc.length + k) % 512) := by
        apply List.map_congr_left
        intro k hk
        rw [List.mem_range] at hk
        have hquot : (pos + acc.length + k) / 512 = (pos + acc.length) / tfsSectorSize := by
          unfold tfsSectorSize
          omega
        have hrem : (pos + acc.length + k) % 512 = off + k := by omega
        rw [hdata, hquot, hrem]
      rw [hsplit, List.range_add, List.map_append, hslice, List.map_map]
      congr 1
      apply List.map_congr_left
      intro k _
      simp only [Function.comp_apply, ← Nat.add_assoc]
    · have h0 : size - acc.length = 0 := by omega
      simp [h0, hd]

/-- The number of bytes `tfs_write` writes from byte `a` of the disk on: what fits before the end
of the data area. -/
def tfsWritten (a n : Nat) : Nat := min n (512 * (tfsDataStart + tfsMaxFiles) - a)

/-- The write loop replaces a range of the flat array, cut at the end of the data area. -/
lemma tfsWriteLoop_spec (lba₀ pos : Nat) (hpos : pos < 4294967296) (hlba : lba₀ < 2147483648)
    (src : List UInt8) (fuel : Nat) {disk : Disk} (hd : disk.Ready) (sector : Sector) {total : Nat}
    (htotal : total ≤ tfsWritten (512 * lba₀ + pos) src.length)
    (hfuel : src.length - total ≤ fuel) :
    (tfsWriteLoop lba₀ pos src fuel disk sector total).1.Ready ∧
      (tfsWriteLoop lba₀ pos src fuel disk sector total).2 =
        tfsWritten (512 * lba₀ + pos) src.length ∧
      ∀ a, flatByte (tfsWriteLoop lba₀ pos src fuel disk sector total).1.view a =
        if 512 * lba₀ + pos + total ≤ a ∧
            a < 512 * lba₀ + pos + tfsWritten (512 * lba₀ + pos) src.length then
          src.getD (a - (512 * lba₀ + pos)) 0
        else flatByte disk.view a := by
  have hw : tfsWritten (512 * lba₀ + pos) src.length =
      min src.length (115200 - (512 * lba₀ + pos)) := rfl
  rw [hw] at htotal ⊢
  induction fuel generalizing disk sector total with
  | zero =>
    refine ⟨hd, by simp only [tfsWriteLoop]; omega, fun a => ?_⟩
    rw [if_neg (by omega), tfsWriteLoop]
  | succ fuel ih =>
    rw [tfsWriteLoop]
    by_cases hlt : total < src.length
    · have habs : u32 (pos + total) = pos + total := u32_of_lt (by omega)
      have hl : u32 (lba₀ + (pos + total) / tfsSectorSize) = lba₀ + (pos + total) / 512 :=
        u32_of_lt (by unfold tfsSectorSize; omega)
      simp only [hlt, if_true, habs, hl]
      by_cases hend : tfsDataStart + tfsMaxFiles ≤ lba₀ + (pos + total) / 512
      · -- the end of the data area is reached
        have hend' : 225 ≤ lba₀ + (pos + total) / 512 := hend
        rw [if_pos hend]
        refine ⟨hd, by omega, fun a => ?_⟩
        rw [if_neg (by omega)]
      · have hend' : ¬ 225 ≤ lba₀ + (pos + total) / 512 := hend
        rw [if_neg hend]
        set l := lba₀ + (pos + total) / 512 with hl'
        obtain ⟨hg, hv, hdata⟩ := diskReadSector_spec hd l sector
        set r := diskReadSector disk l sector
        set off := (pos + total) % tfsSectorSize with hoff
        have hoff' : off = (pos + total) % 512 := rfl
        set chunk := min (tfsSectorSize - off) (src.length - total) with hchunk
        have hc : chunk ≤ 512 - off ∧ chunk ≤ src.length - total ∧ 0 < chunk := by
          simp only [hchunk, tfsSectorSize]
          omega
        set bs := (src.drop total).take chunk with hbs
        have hbl : bs.length = chunk := by simp [hbs]; omega
        obtain ⟨hg', hv'⟩ := pageCacheWriteSector_spec hg l (r.2.patch off bs)
        have hle : total + chunk ≤ min src.length (115200 - (512 * lba₀ + pos)) := by omega
        obtain ⟨h1, h2, h3⟩ := ih hg' (r.2.patch off bs) hle (by omega)
        refine ⟨h1, h2, fun a => ?_⟩
        rw [diskWriteSector, h3 a, hv', hdata, hv, flatByte_update_patch _ _ _ _ (by omega), hbl]
        by_cases ha : 512 * lba₀ + pos + (total + chunk) ≤ a ∧
            a < 512 * lba₀ + pos + min src.length (115200 - (512 * lba₀ + pos))
        · rw [if_pos ha, if_pos (by omega)]
        · rw [if_neg ha]
          by_cases ha' : 512 * l + off ≤ a ∧ a < 512 * l + off + chunk
          · rw [if_pos ha', if_pos (by omega)]
            have hidx : a - (512 * lba₀ + pos) = total + (a - (512 * l + off)) := by omega
            rw [hidx, List.getD_eq_getElem?_getD, List.getD_eq_getElem?_getD, hbs,
              List.getElem?_take_of_lt (by omega), List.getElem?_drop]
          · rw [if_neg ha', if_neg (by omega)]
    · rw [if_neg hlt]
      refine ⟨hd, by omega, fun a => ?_⟩
      rw [if_neg (by omega)]

end NeuroSpark
