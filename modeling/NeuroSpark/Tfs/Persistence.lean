import NeuroSpark.Tfs.Isolation

/-!
# What the directory sector keeps

An entry of the directory has 24 bytes and there are 25 of them, 600 bytes in all, while
`disk_write_sector` stores one sector of 512. The entries of slots 0 to 20 lie inside it. Of slot 21
the first eight bytes of the name do, and of the later slots nothing: what a kernel finds there
after reading the directory is what its memory held before.
-/

namespace NeuroSpark

namespace TfsDirectory

variable {d e : TfsDirectory} {i : Fin 25}

/-- The two directories have the same entry in slot `i`. -/
structure SameEntry (d e : TfsDirectory) (i : Fin 25) : Prop where
  name : d.name i = e.name i
  lba : d.lba i = e.lba i
  size : d.size i = e.size i
  flags : d.flags i = e.flags i

lemma SameEntry.of_get (h : ∀ k, k < 24 → d.get (24 * i + k) = e.get (24 * i + k)) :
    d.SameEntry e i where
  name := by
    rw [TfsDirectory.name, TfsDirectory.name]
    congr 1
    refine Bytes.slice_congr fun k hk hk' => ?_
    obtain ⟨j, rfl⟩ := Nat.exists_eq_add_of_le hk
    exact h j (by omega)
  lba := Bytes.le32_congr fun k hk => by simpa [Nat.add_assoc] using h (12 + k) (by omega)
  size := Bytes.le32_congr fun k hk => by simpa [Nat.add_assoc] using h (16 + k) (by omega)
  flags := Bytes.le32_congr fun k hk => by simpa [Nat.add_assoc] using h (20 + k) (by omega)

end TfsDirectory

/-- What is in memory once `d` was stored and the sector is read back over the memory `m`. -/
def Tfs.reread (s : Tfs) (d m : TfsDirectory) : TfsDirectory :=
  ({ s.updateDirectory d with rootDirectory := m } : Tfs).loadDirectory.rootDirectory

variable {s : Tfs}

lemma Tfs.reread_eq (hs : s.disk.Ready) (d m : TfsDirectory) :
    s.reread d m = m.overlay (d.resize : Sector) := by
  obtain ⟨hready, hview⟩ := Tfs.updateDirectory_spec hs d
  obtain ⟨-, -, hload⟩ :=
    Tfs.loadDirectory_spec (s := { s.updateDirectory d with rootDirectory := m }) hready
  rw [reread, hload]
  simp [hview]

lemma Tfs.get_reread (hs : s.disk.Ready) (d m : TfsDirectory) {k : Nat} (hk : k < 600) :
    (s.reread d m).get k = if k < 512 then d.get k else m.get k := by
  rw [Tfs.reread_eq hs, Bytes.overlay, Bytes.get_ofFun _ hk]
  split_ifs with h
  · exact Bytes.get_resize d h
  · rfl

lemma Tfs.reread_sameEntry (hs : s.disk.Ready) (d m : TfsDirectory) {i : Fin 25}
    (hi : i.val < 21) : (s.reread d m).SameEntry d i :=
  .of_get fun k hk => by rw [Tfs.get_reread hs d m (by omega), if_pos (by omega)]

lemma Tfs.reread_flags (hs : s.disk.Ready) (d m : TfsDirectory) {i : Fin 25} (hi : 21 ≤ i.val) :
    (s.reread d m).flags i = m.flags i :=
  Bytes.le32_congr fun k hk => by rw [Tfs.get_reread hs d m (by omega), if_neg (by omega)]

/-- An entry survives storing the directory and reading it back over any memory exactly when its
slot is one of the first 21; and a kernel that starts with zeroed memory finds the file again, with
its size, under the same condition. -/
theorem tfsDirectory_persists_iff (hs : s.Reachable) (d : TfsDirectory) (i : Fin 25) :
    ((∀ m, (s.reread d m).SameEntry d i) ↔ i.val < 21) ∧
      (d.flags i = 1 → ((s.reread d Bytes.zero).flags i = 1 ∧
        (s.reread d Bytes.zero).size i = d.size i ↔ i.val < 21)) := by
  have hready := hs.sane.ready
  refine ⟨⟨fun h => ?_, fun hi m => Tfs.reread_sameEntry hready d m hi⟩, fun hused => ⟨?_, ?_⟩⟩
  · by_contra hi
    -- a memory whose flags differ shows in the entry
    have hflags := (h (TfsDirectory.setFlags Bytes.zero i (d.flags i + 1))).flags
    rw [Tfs.reread_flags hready _ _ (by omega), TfsDirectory.flags, TfsDirectory.setFlags,
      Bytes.le32_setLe32_same _ _ (by omega)] at hflags
    have hlt := Bytes.le32_lt d (24 * i + 20)
    change (d.flags i + 1) % 4294967296 = d.flags i at hflags
    change d.flags i < 4294967296 at hlt
    omega
  · rintro ⟨hflags, -⟩
    by_contra hi
    rw [Tfs.reread_flags hready _ _ (by omega)] at hflags
    have hzero : TfsDirectory.flags Bytes.zero i = 0 := by
      simp [TfsDirectory.flags, Bytes.le32, Bytes.slice, Le.value]
    omega
  · intro hi
    have hsame := Tfs.reread_sameEntry hready d Bytes.zero hi
    exact ⟨hsame.flags.trans hused, hsame.size⟩

/-- A directory with a file in every slot, as `tfs_open` creates them one after the other. -/
def filledDirectory : TfsDirectory :=
  (List.finRange 25).foldl (fun d i => d.create i [65 + UInt8.ofNat i]) Bytes.zero

lemma blankDisk_reachable : (Tfs.boot fun _ => Bytes.zero).Reachable := ⟨_, [], rfl⟩

/-- The last entry that the sector holds whole. -/
theorem tfsDirectory_persists_slot20 :
    filledDirectory.flags 20 = 1 ∧
      ∀ m, ((Tfs.boot fun _ => Bytes.zero).reread filledDirectory m).SameEntry filledDirectory 20 :=
  ⟨by decide,
    (tfsDirectory_persists_iff blankDisk_reachable filledDirectory 20).1.2 (by decide)⟩

/-- The file in slot 24 is gone when the full directory is read back into zeroed memory. -/
theorem tfsDirectory_loses_slot24 :
    filledDirectory.flags 24 = 1 ∧
      ((Tfs.boot fun _ => Bytes.zero).reread filledDirectory Bytes.zero).flags 24 = 0 := by
  refine ⟨by decide, ?_⟩
  rw [Tfs.reread_flags blankDisk_reachable.sane.ready _ _ (by decide)]
  decide

end NeuroSpark
