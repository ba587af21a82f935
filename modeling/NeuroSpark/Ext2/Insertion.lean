import NeuroSpark.Ext2.NewInode

/-!
# Names after an insertion

What a directory finds after `dir_add_entry`. A new name is added and nothing else changes, unless
the zero byte behind the name falls on the next record, or the directory grows by a block with a
stale record that has room; such a record stays in the directory.
-/

namespace NeuroSpark

open Word Ext2View

variable {L : Ext2Layout} {n d p off fileType : Nat} {s t : Ext2} {blk : Ext2Block} {name : CString}

/-- The directory `d` finds one name more, and its records are in order. -/
structure EntryAdded (L : Ext2Layout) (d n : Nat) (name : CString) (s t : Ext2) : Prop where
  found : dirLookup t d name = some n
  others : ∀ c, c ≠ name → dirLookup t d c = dirLookup s d c
  records : DirRecords (t.view L) ((t.view L).inode d)

/-- There is a place for the entry where it harms nothing. A block that the directory grows by may
hold stale records. -/
def Insertable (m : Ext2MountState) (v : Ext2View) (i : Ext2Inode) (n fileType : Nat)
    (name : CString) : Prop :=
  n ≠ 0 ∧
    match roomIn v i name.length with
    | some (b, off) => ¬ Clobbers (fileData v i b) off name
    | none => ∀ p, newBlock m v i (blockCount i.size) 0 = some p →
        BlockOk (addToNewBlock (v.data p) n fileType name) ∧
          blockListing (addToNewBlock (v.data p) n fileType name) = [⟨name, n⟩]

lemma mem_blockListing_ne_zero {e : Σ _ : CString, Nat} (he : e ∈ blockListing blk) : e.2 ≠ 0 := by
  obtain ⟨x, -, hrec⟩ := List.mem_filterMap.mp he
  unfold recordOf at hrec
  split_ifs at hrec with hlive
  cases hrec
  exact hlive.1

lemma EntryAdded.ne_zero (h : EntryAdded L d n name s t) (ht : t.InOrder L)
    (hdt : IsDirectory (t.view L) d) : n ≠ 0 := by
  have hfound := h.found
  rw [h.records.dirLookup_eq ht hdt] at hfound
  obtain ⟨b, -, hmem⟩ := List.mem_flatMap.mp (List.of_mem_dlookup hfound)
  exact mem_blockListing_ne_zero hmem

section

variable (hs : s.InOrder L) (hd : IsDirectory (s.view L) d)
  (hok : DirRecords (s.view L) ((s.view L).inode d))
  (habs : name ∉ (dirListing (s.view L) ((s.view L).inode d)).keys)
include hs hd hok habs

lemma Inserted.entryAdded
    (h : Inserted name n (dirListing (s.view L) ((s.view L).inode d))
      (dirListing (t.view L) ((t.view L).inode d)))
    (ht : t.InOrder L) (hdt : IsDirectory (t.view L) d)
    (hshape : DirShape (t.view L) ((t.view L).inode d))
    (hblocks : ∀ b < blockCount ((t.view L).inode d).size,
      BlockOk (fileData (t.view L) ((t.view L).inode d) b)) : EntryAdded L d n name s t := by
  have hrec : DirRecords (t.view L) ((t.view L).inode d) :=
    ⟨hshape, hblocks, h.nodupKeys hok.names habs⟩
  refine ⟨?_, fun c hc => ?_, hrec⟩
  · rw [hrec.dirLookup_eq ht hdt, h.dlookup_self habs]
  · rw [hrec.dirLookup_eq ht hdt, h.dlookup_ne hc, hok.dirLookup_eq hs hd]

/-- A directory that grows gets one entry more exactly if the new block lists it alone. -/
lemma Grew.entryAdded_iff (h : Grew L d blk s t) :
    EntryAdded L d n name s t ↔ BlockOk blk ∧ blockListing blk = [⟨name, n⟩] := by
  have hlisting := h.listing hok.toDirShape
  have hdt := h.isDirectory hd
  constructor
  · rintro ⟨hfound, hothers, hrec⟩
    have hlook := hrec.dirLookup_eq h.inOrder hdt
    have hnames := hrec.names
    have hblk : BlockOk blk := by
      have hlast := hrec.blocks (blockCount ((s.view L).inode d).size) (by
        rw [h.blockCount_eq hok.toDirShape]
        exact Nat.lt_succ_self _)
      rwa [h.lastData] at hlast
    refine ⟨hblk, ?_⟩
    rw [hlisting] at hlook hnames
    -- the new block has no name but the new one
    have hkey : ∀ e ∈ blockListing blk, e.1 = name := by
      intro e he
      by_contra hne
      have hold := hothers e.1 hne
      rw [hlook, List.mem_dlookup hnames (List.mem_append_right _ he),
        hok.dirLookup_eq hs hd] at hold
      have hmem := List.mem_keys_of_mem (List.of_mem_dlookup hold.symm)
      rw [List.NodupKeys, List.keys_append] at hnames
      exact List.disjoint_of_nodup_append hnames hmem (List.mem_keys_of_mem he)
    have hmem : (⟨name, n⟩ : Σ _ : CString, Nat) ∈ blockListing blk := by
      rw [hlook] at hfound
      rcases List.mem_append.mp (List.of_mem_dlookup hfound) with hold | hnew
      · exact absurd (List.mem_keys_of_mem hold) habs
      · exact hnew
    rw [List.NodupKeys, List.keys_append] at hnames
    have hnodup := hnames.of_append_right
    generalize blockListing blk = l at hkey hmem hnodup
    cases l with
    | nil => cases hmem
    | cons e l =>
      cases l with
      | nil => rw [List.mem_singleton.mp hmem]
      | cons e' l =>
        have h₁ := hkey e (by simp)
        have h₂ := hkey e' (by simp)
        simp [List.keys, h₁, h₂] at hnodup
  · rintro ⟨hblk, hlist⟩
    have hins : Inserted name n (dirListing (s.view L) ((s.view L).inode d))
        (dirListing (t.view L) ((t.view L).inode d)) :=
      ⟨_, [], (List.append_nil _).symm, by rw [hlisting, hlist]⟩
    exact hins.entryAdded hs hd hok habs h.inOrder hdt (h.dirShape hok.toDirShape)
      (h.blocks hok.toDirShape hok.blocks hblk)

/-- A directory with a split record gets one entry more exactly if no zero byte falls on the next
record. -/
lemma splitEntry_added_iff {b : Nat}
    (h : BlockWritten L d b (splitEntry (fileData (s.view L) ((s.view L).inode d) b) off n fileType
      name) s t)
    (hroom : roomIn (s.view L) ((s.view L).inode d) name.length = some (b, off))
    (hname : GoodName name) (hlt : n < 4294967296) (hn0 : n ≠ 0) :
    EntryAdded L d n name s t ↔
      ¬ Clobbers (fileData (s.view L) ((s.view L).inode d) b) off name := by
  have hblocks := splitEntry_blocks h hok hroom hname hlt hn0
  have hdt := h.isDirectory hd
  constructor
  · intro hadded hclob
    obtain ⟨c, x, -, -, hmem, hlost⟩ := splitEntry_loses h hok hroom hname hlt hn0 habs hclob
    have hne : c ≠ name := by
      rintro rfl
      exact habs (List.mem_keys_of_mem hmem)
    have hold := hadded.others c hne
    rw [hok.dirLookup_eq hs hd, List.mem_dlookup hok.names hmem,
      hadded.records.dirLookup_eq h.inOrder hdt] at hold
    exact hlost (List.of_mem_dlookup hold)
  · intro hclob
    exact (splitEntry_inserted h hok hroom hname hlt hn0 hclob).entryAdded hs hd hok habs h.inOrder
      hdt (h.dirShape hok.toDirShape) hblocks

end

lemma dirAddEntry_entryAdded (h : s.HasDirectory L d) (hname : GoodName name)
    (habs : dirLookup s d name = none) (hlt : n < 4294967296) (fileType : Nat)
    (hadd : (dirAddEntry s d name n fileType).2 = true) :
    (EntryAdded L d n name s (dirAddEntry s d name n fileType).1 ↔
      Insertable s.mount (s.view L) ((s.view L).inode d) n fileType name) ∧
    (EntryAdded L d n name s (dirAddEntry s d name n fileType).1 →
      (dirAddEntry s d name n fileType).1.HasDirectory L d) := by
  obtain ⟨hs, h1, hd, hok⟩ := h
  rw [hok.dirLookup_eq hs hd, List.dlookup_eq_none] at habs
  rcases dirAddEntry_cases hs h1 hd hok.toDirShape fileType hname.length with
    ⟨b, off, hroom, -, hw⟩ | ⟨hroom, -, p, hp, hg⟩ | ⟨hfail, -⟩ | ⟨-, hfail, -⟩
  · refine ⟨?_, fun h => ⟨hw.inOrder, hw.becomes.mount ▸ h1, hw.isDirectory hd, h.records⟩⟩
    rw [Insertable, hroom]
    by_cases hn0 : n = 0
    · exact iff_of_false (fun h => h.ne_zero hw.inOrder (hw.isDirectory hd) hn0) fun h => h.1 hn0
    · rw [splitEntry_added_iff hs hd hok habs hw hroom hname hlt hn0, and_iff_right hn0]
  · refine ⟨?_, fun h => ⟨hg.inOrder, hg.becomes.mount ▸ h1, hg.isDirectory hd, h.records⟩⟩
    rw [Insertable, hroom, hp]
    by_cases hn0 : n = 0
    · exact iff_of_false (fun h => h.ne_zero hg.inOrder (hg.isDirectory hd) hn0) fun h => h.1 hn0
    · rw [hg.entryAdded_iff hs hd hok habs, and_iff_right hn0]
      simp only [Option.some.injEq, forall_eq']
  · rw [hfail] at hadd
    cases hadd
  · rw [hfail] at hadd
    cases hadd

/-- A successful `dir_add_entry` adds the entry exactly if it finds a place where it harms
nothing. -/
theorem dirAddEntry_adds_iff (h : s.HasDirectory L d) (hname : GoodName name)
    (habs : dirLookup s d name = none) (hlt : n < 4294967296) (fileType : Nat)
    (hadd : (dirAddEntry s d name n fileType).2 = true) :
    EntryAdded L d n name s (dirAddEntry s d name n fileType).1 ↔
      Insertable s.mount (s.view L) ((s.view L).inode d) n fileType name :=
  (dirAddEntry_entryAdded h hname habs hlt fileType hadd).1

lemma sample_hasDirectory : sample.HasDirectory sampleLayout 2 := by
  have hs := sample_wellFormed
  exact ⟨hs.toInOrder, hs.firstDataBlock, hs.root, (hs.dirs 2 hs.root).records⟩

lemma sample_insertable : Insertable sample.mount (sample.view sampleLayout)
    ((sample.view sampleLayout).inode 2) 3 1 [108] := by
  have hroom : roomIn (sample.view sampleLayout) ((sample.view sampleLayout).inode 2)
      ([108] : CString).length = some (0, 24) := by
    rw [sample_inode.2.1, roomIn_sampleRoot, sample_rootData, sample_rootBlock.2.1]
    decide
  rw [Insertable, hroom]
  exact ⟨by decide, fun hclob => absurd hclob.1 (by decide)⟩

/-- The root directory of the sample image gets a second name for its file. -/
theorem dirAddEntry_adds_sample :
    EntryAdded sampleLayout 2 3 [108] sample (dirAddEntry sample 2 [108] 3 1).1 :=
  (dirAddEntry_adds_iff sample_hasDirectory ⟨by decide, by decide, by decide, by decide⟩
    (by decide) (by decide) 1 (by decide)).2 sample_insertable

end NeuroSpark
