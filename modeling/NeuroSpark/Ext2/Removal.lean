import NeuroSpark.Ext2.NewInode

/-!
# Entries removed from directories

`dir_remove_entry` looks for the first record of a name, block by block, and gives its space to the
record in front of it. In terms of listings a pair is erased.
-/

namespace NeuroSpark

open Word Ext2View

variable {L : Ext2Layout} {d : Nat} {s : Ext2} {v : Ext2View} {i : Ext2Inode} {name : CString}
  {bs : List Nat}

/-- The first block in which a record has the name, with that record and the one in front of it. -/
def entryIn (s : Ext2) (v : Ext2View) (i : Ext2Inode) (name : CString) (bs : List Nat) :
    Option (Nat × Option Nat × Nat) :=
  bs.findSome? fun b =>
    (findEntryPrev s (fileData v i b) name none (dirOffsets (fileData v i b))).map fun r => (b, r)

lemma dirRemoveEntryIn_eq (hk : Working L d s i) (name : CString)
    (hbs : ∀ b ∈ bs, fileBlock (s.view L) i b ≠ 0) :
    dirRemoveEntryIn s i name bs =
      match entryIn s (s.view L) i name bs with
      | some (b, p, off) => (writeBlock s (fileBlock (s.view L) i b)
          (dropEntry (fileData (s.view L) i b) p off), true)
      | none => (s, false) := by
  induction bs with
  | nil => rfl
  | cons b bs ih =>
    have ih := ih fun b' hb' => hbs b' (List.mem_cons_of_mem _ hb')
    rw [dirRemoveEntryIn, dirBlock_present hk (hbs b (List.mem_cons_self ..)), entryIn,
      List.findSome?_cons]
    cases hfind : findEntryPrev s (fileData (s.view L) i b) name none
        (dirOffsets (fileData (s.view L) i b)) with
    | some r => simp only [hfind, Option.map_some]
    | none =>
      simp only [hfind, Option.map_none]
      exact ih

lemma entryIn_eq_none (hok : ∀ b ∈ bs, BlockOk (fileData v i b))
    (hnone : entryIn s v i name bs = none) :
    name ∉ (bs.flatMap fun b => blockListing (fileData v i b)).keys := by
  intro hname
  rw [entryIn, List.findSome?_eq_none_iff] at hnone
  obtain ⟨x, hx⟩ := List.mem_keys.mp hname
  obtain ⟨b, hb, hmem⟩ := List.mem_flatMap.mp hx
  have hfind := hnone b hb
  rw [Option.map_eq_none_iff] at hfind
  have habs := (hok b hb).notMem_keys (fun _ hx => hx) (findEntryPrev_eq_none hfind)
  exact habs (List.mem_keys_of_mem hmem)

lemma kerase_middle {X Y B : Listing} (hnodup : (X ++ (B ++ Y)).NodupKeys) (hname : name ∈ B.keys) :
    (X ++ (B ++ Y)).kerase name = X ++ (B.kerase name ++ Y) := by
  have hX : name ∉ X.keys := by
    intro hX
    rw [List.NodupKeys, List.keys_append] at hnodup
    refine List.disjoint_of_nodup_append hnodup hX ?_
    rw [List.keys_append]
    exact List.mem_append_left _ hname
  rw [List.kerase_append_right hX, List.kerase_append_left hname]

section

variable (hs : s.InOrder L) (hd : IsDirectory (s.view L) d)
  (hok : DirRecords (s.view L) ((s.view L).inode d))
include hs hd hok

/-- Either the name is not listed and nothing happens, or its record is given up in one block. -/
lemma dirRemoveEntry_cases (name : CString) :
    (name ∉ (dirListing (s.view L) ((s.view L).inode d)).keys ∧
      dirRemoveEntry s d name = (s, false)) ∨
    (name ∈ (dirListing (s.view L) ((s.view L).inode d)).keys ∧
      (dirRemoveEntry s d name).2 = true ∧ ∃ b buf, BlockOk buf ∧
        BlockWritten L d b buf s (dirRemoveEntry s d name).1 ∧
        dirListing ((dirRemoveEntry s d name).1.view L)
          (((dirRemoveEntry s d name).1.view L).inode d) =
            (dirListing (s.view L) ((s.view L).inode d)).kerase name) := by
  have hpresent : ∀ b ∈ List.range (blockCount ((s.view L).inode d).size),
      fileBlock (s.view L) ((s.view L).inode d) b ≠ 0 :=
    fun b hb => hok.present b (List.mem_range.mp hb)
  rw [dirRemoveEntry, IsDirectory.readDirInode hs.layout hd]
  dsimp only
  rw [dirRemoveEntryIn_eq (hs.working hd.owner) name hpresent]
  cases hentry : entryIn s (s.view L) ((s.view L).inode d) name
      (List.range (blockCount ((s.view L).inode d).size)) with
  | none =>
    exact Or.inl ⟨entryIn_eq_none (fun b hb => hok.blocks b (List.mem_range.mp hb)) hentry, rfl⟩
  | some r =>
    obtain ⟨b, p, off⟩ := r
    obtain ⟨b', hb', hfind⟩ := List.exists_of_findSome?_eq_some hentry
    obtain ⟨r, hfind, he⟩ := Option.map_eq_some_iff.mp hfind
    cases he
    have hb := List.mem_range.mp hb'
    obtain ⟨hbuf, hkey, hlist⟩ := (hok.blocks b hb).dropEntry_listing hfind
    have hw := hs.blockWritten hd.owner (hok.present b hb)
      (dropEntry (fileData (s.view L) ((s.view L).inode d) b) p off)
    obtain ⟨X, Y, hold, hnew⟩ := hw.listing hok.toDirShape hb
    have hnames := hok.names
    rw [hold] at hnames
    refine Or.inr ⟨?_, rfl, b, _, hbuf, hw, ?_⟩
    · rw [hold]
      simp [List.keys_append, hkey]
    · dsimp only
      rw [hnew, hold, hlist, kerase_middle hnames hkey]

/-- A name that is removed is unknown, and the others are found as before; removing a name that
the directory does not have changes nothing. -/
lemma dirRemoveEntry_removes (h1 : 1 ≤ s.mount.firstDataBlock) (name : CString) :
    (dirRemoveEntry s d name).2 = (dirLookup s d name).isSome ∧
      dirLookup (dirRemoveEntry s d name).1 d name = none ∧
      (∀ c, c ≠ name → dirLookup (dirRemoveEntry s d name).1 d c = dirLookup s d c) ∧
      (dirRemoveEntry s d name).1.HasDirectory L d := by
  have hlook := hok.dirLookup_eq hs hd
  rcases dirRemoveEntry_cases hs hd hok name with ⟨hname, hres⟩ |
    ⟨hname, hres, b, buf, hbuf, hw, hlist⟩
  · rw [← List.dlookup_eq_none, ← hlook] at hname
    rw [hres]
    exact ⟨by rw [hname]; rfl, hname, fun _ _ => rfl, hs, h1, hd, hok⟩
  · have hnew : DirRecords ((dirRemoveEntry s d name).1.view L)
        (((dirRemoveEntry s d name).1.view L).inode d) := by
      refine ⟨hw.dirShape hok.toDirShape, hw.blocks hok.toDirShape hok.blocks hbuf, ?_⟩
      rw [hlist]
      exact hok.names.kerase name
    have hlook' := hnew.dirLookup_eq hw.inOrder (hw.isDirectory hd)
    rw [hlist] at hlook'
    refine ⟨?_, ?_, fun c hc => ?_, hw.inOrder, hw.becomes.mount ▸ h1, hw.isDirectory hd, hnew⟩
    · rw [hres, hlook, List.dlookup_isSome.2 hname]
    · rw [hlook', List.dlookup_kerase _ hok.names]
    · rw [hlook', hlook, List.dlookup_kerase_ne hc]

end

end NeuroSpark
