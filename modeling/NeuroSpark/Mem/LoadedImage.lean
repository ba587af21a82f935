import NeuroSpark.Mem.LoaderReads

/-!
# The memory image of a program

Each segment is mapped to new pages that are cleared, also where an earlier segment has bytes on
them. So a byte of user memory is what the last segment with a page there makes of it.
-/

namespace NeuroSpark

/-! ### Segments -/

/-- The pages that are mapped for a program header. -/
def Elf32Phdr.pages (loadBias : BitVec 32) (ph : Elf32Phdr) : List Nat :=
  if ph.loads then rangePages (ph.pVaddr + loadBias) ph.pMemsz else []

/-- An address as an offset in a segment. -/
def Elf32Phdr.offsetOf (loadBias : BitVec 32) (ph : Elf32Phdr) (va : BitVec 32) : BitVec 32 :=
  va - (ph.pVaddr + loadBias)

def Elf32Phdr.Covers (loadBias : BitVec 32) (ph : Elf32Phdr) (va : BitVec 32) : Prop :=
  ph.loads = true ∧ ph.offsetOf loadBias va < ph.pMemsz

/-- The address has a byte of the file. -/
def Elf32Phdr.CoversFile (loadBias : BitVec 32) (ph : Elf32Phdr) (va : BitVec 32) : Prop :=
  ph.loads = true ∧ ph.offsetOf loadBias va < ph.pFilesz

/-- What a segment makes of the byte at an address: a byte of the file, or zero on the rest of its
pages. -/
def segmentByte (image : UserImage) (loadBias va : BitVec 32) (ph : Elf32Phdr) :
    Option (BitVec 8) :=
  if pageNo va ∈ ph.pages loadBias then
    some (if ph.offsetOf loadBias va < ph.pFilesz
      then image.bytes (ph.pOffset + ph.offsetOf loadBias va) else 0)
  else none

/-- The segments are in memory, one over the other. -/
structure Paging.LoadsSegments (image : UserImage) (loadBias : BitVec 32) (dir : Nat)
    (phdrs : List Elf32Phdr) (s s' : Paging) : Prop where
  accepted : ∀ ph ∈ phdrs, ph.loads = true → ph.accepted image.size loadBias = true
  bytes : ∀ va, s'.userByte dir va =
    (phdrs.reverse.findSome? (segmentByte image loadBias va)).or (s.userByte dir va)
  kept : ∀ m < 1048576, (∀ ph ∈ phdrs, m ∉ ph.pages loadBias) → s'.userPte dir m = s.userPte dir m
  fresh : ∀ m < 1048576, (∃ ph ∈ phdrs, m ∈ ph.pages loadBias) → ∃ e, s'.userPte dir m = some e ∧
    ¬ s.memoryBitmap.Used (frameOf e)
  grows : ∀ q, s.memoryBitmap.Used q → s'.memoryBitmap.Used q

section

variable {image : UserImage} {loadBias : BitVec 32} {base : Pmm} {dir supply : Nat}
  {s s' s'' : Paging} {pd : BitVec 32} {phdrs phdrs' : List Elf32Phdr} {done : List Nat}
  {ph : Elf32Phdr}

lemma Paging.LoadsSegments.refl (s : Paging) : s.LoadsSegments image loadBias dir [] s where
  accepted _ h := nomatch h
  bytes _ := rfl
  kept _ _ _ := rfl
  fresh _ _ h := nomatch h
  grows _ h := h

lemma Paging.LoadsSegments.trans (h : s.LoadsSegments image loadBias dir phdrs s')
    (h' : s'.LoadsSegments image loadBias dir phdrs' s'') :
    s.LoadsSegments image loadBias dir (phdrs ++ phdrs') s'' where
  accepted ph hmem := (List.mem_append.1 hmem).elim (h.accepted ph) (h'.accepted ph)
  bytes va := by
    rw [h'.bytes, h.bytes, List.reverse_append, List.findSome?_append, Option.or_assoc]
  kept m hm hout := by
    rw [h'.kept m hm fun ph hph => hout ph (List.mem_append_right _ hph),
      h.kept m hm fun ph hph => hout ph (List.mem_append_left _ hph)]
  fresh m hm hin := by
    obtain ⟨ph, hph, hpage⟩ := hin
    by_cases hlate : ∃ ph ∈ phdrs', m ∈ ph.pages loadBias
    · obtain ⟨e, he, hfree⟩ := h'.fresh m hm hlate
      exact ⟨e, he, fun hused => hfree (h.grows _ hused)⟩
    · have hearly : ∃ ph ∈ phdrs, m ∈ ph.pages loadBias :=
        ⟨ph, (List.mem_append.1 hph).resolve_right fun hph => hlate ⟨ph, hph, hpage⟩, hpage⟩
      obtain ⟨e, he, hfree⟩ := h.fresh m hm hearly
      exact ⟨e, (h'.kept m hm fun ph hph hpage => hlate ⟨ph, hph, hpage⟩).trans he, hfree⟩
  grows q hq := h'.grows q (h.grows q hq)

lemma Elf32Phdr.loads_of_mem_pages {m : Nat} (h : m ∈ ph.pages loadBias) : ph.loads = true := by
  by_contra hnot
  rw [Elf32Phdr.pages, if_neg hnot] at h
  cases h

lemma Elf32Phdr.mem_pages_of_covers {va : BitVec 32}
    (haccepted : ph.accepted image.size loadBias = true) (h : ph.Covers loadBias va) :
    pageNo va ∈ ph.pages loadBias := by
  obtain ⟨hloads, hlt⟩ := h
  have hrange := (Elf32Phdr.range_of_accepted haccepted).1
  have hva : va = ph.pVaddr + loadBias + BitVec.ofNat 32 (ph.offsetOf loadBias va).toNat := by
    rw [BitVec.ofNat_toNat, BitVec.setWidth_eq, Elf32Phdr.offsetOf, BitVec.add_comm,
      BitVec.sub_add_cancel]
  rw [Elf32Phdr.pages, if_pos hloads, hva]
  exact mem_rangePages_of_lt hrange hlt

lemma Elf32Phdr.covers_of_coversFile {va : BitVec 32}
    (haccepted : ph.accepted image.size loadBias = true) (h : ph.CoversFile loadBias va) :
    ph.Covers loadBias va := by
  obtain ⟨hloads, hlt⟩ := h
  have hlt : (ph.offsetOf loadBias va).toNat < ph.pFilesz.toNat := hlt
  have hfilesz : ¬ ph.pMemsz.toNat < ph.pFilesz.toNat := (Elf32Phdr.range_of_accepted haccepted).2
  exact ⟨hloads, BitVec.lt_def.2 (by omega)⟩

/-- One segment is loaded. -/
lemma loadSegment_loads (h : s.Loaded base dir supply done) (hlow : ∀ page < 256, base.Used page)
    (hpd : pd &&& pageMask ≠ 0) (hdir : frameOf pd = dir) {i : Nat}
    (hok : (Loader.loadSegment image pd loadBias s i).result = .ok s') :
    (∃ done', s'.Loaded base dir supply done') ∧
      s.LoadsSegments image loadBias dir [image.phdr i] s' := by
  obtain ⟨_, ⟨⟩, hok⟩ := Logged.of_result_bind hok
  generalize image.phdr i = ph at hok ⊢
  by_cases hloads : ph.loads = true
  swap
  · rw [if_pos hloads] at hok
    obtain rfl := Except.ok.inj hok
    have hnone : ph.pages loadBias = [] := if_neg hloads
    refine ⟨⟨done, h⟩, ⟨by simp [hloads], ?_, fun _ _ _ => rfl, by simp [hnone], fun _ h => h⟩⟩
    simp [segmentByte, hnone]
  rw [if_neg (not_not.2 hloads)] at hok
  by_cases haccepted : ph.accepted image.size loadBias = true
  swap
  · rw [if_pos haccepted] at hok
    cases hok
  rw [if_neg (not_not.2 haccepted)] at hok
  obtain ⟨hrange, hfilesz⟩ := Elf32Phdr.range_of_accepted haccepted
  have hle : ¬ ph.pMemsz.toNat < ph.pFilesz.toNat := hfilesz
  have hpages : ph.pages loadBias = rangePages (ph.pVaddr + loadBias) ph.pMemsz := if_pos hloads
  obtain ⟨s₁, hmap, hcopy⟩ := Logged.of_result_bind hok
  obtain ⟨hs₁, hmaps⟩ := mapUserRange_maps h hlow hpd hdir hrange hmap
  rw [← hpages] at hmaps
  obtain ⟨hs', hbits, hptes, hbytes⟩ := copyToUserSpace_writes hs₁ hpd hdir (fun i hi =>
    userPage_of_mem_rangePages hrange (mem_rangePages_of_lt hrange (by omega))) hcopy
  refine ⟨⟨_, hs'⟩, ⟨by simpa using fun _ => haccepted, fun va => ?_, fun m hm hout => ?_,
    fun m hm hin => ?_, fun q hq => ?_⟩⟩
  · -- a byte of the file lies on a page of the segment, and the rest of the page was cleared
    rw [hbytes, hmaps.userByte]
    simp only [List.reverse_singleton, List.findSome?_singleton, segmentByte]
    by_cases hpage : pageNo va ∈ ph.pages loadBias
    · change (if ph.offsetOf loadBias va < ph.pFilesz then _ else _) = _
      split_ifs <;> rfl
    · rw [if_neg hpage, if_neg hpage, Option.none_or, if_neg]
      intro hlt
      exact hpage (Elf32Phdr.mem_pages_of_covers haccepted
        (Elf32Phdr.covers_of_coversFile haccepted ⟨hloads, hlt⟩))
  · rw [hptes m hm]
    exact (hmaps.kept m hm (hout ph List.mem_cons_self)).1
  · obtain ⟨_, hmem, hpage⟩ := hin
    obtain rfl := List.mem_singleton.1 hmem
    obtain ⟨e, he, -, hfree⟩ := hmaps.fresh m hm hpage
    exact ⟨e, (hptes m hm).trans he, hfree⟩
  · rw [hbits]
    exact hmaps.grows q hq

lemma foldlM_loadSegment_loads (h : s.Loaded base dir supply done)
    (hlow : ∀ page < 256, base.Used page) (hpd : pd &&& pageMask ≠ 0) (hdir : frameOf pd = dir)
    {l : List Nat} (hok : (l.foldlM (Loader.loadSegment image pd loadBias) s).result = .ok s') :
    s.LoadsSegments image loadBias dir (l.map image.phdr) s' := by
  induction l generalizing s done with
  | nil =>
    obtain rfl := Except.ok.inj hok
    exact .refl s
  | cons i l ih =>
    obtain ⟨s₁, hfirst, hrest⟩ := Logged.of_result_bind hok
    obtain ⟨⟨done', hs₁⟩, hloads⟩ := loadSegment_loads h hlow hpd hdir hfirst
    exact hloads.trans (ih hs₁ hrest)

/-! ### The law -/

/-- The address of a byte of a segment. -/
def Elf32Phdr.address (loadBias : BitVec 32) (ph : Elf32Phdr) (k : Nat) : BitVec 32 :=
  ph.pVaddr + loadBias + BitVec.ofNat 32 k

/-- The bytes of the file are in memory where no later segment covers them, the rest of each segment
is zero, and the stack that was there before is still there and zero. -/
structure ImageLaw (image : UserImage) (loadBias : BitVec 32) (dir : Nat) (stacked s : Paging) :
    Prop where
  file : ∀ earlier ph later, image.phdrs = earlier ++ ph :: later → ph.loads = true →
    ∀ k < ph.pFilesz.toNat, (∀ ph' ∈ later, ¬ ph'.Covers loadBias (ph.address loadBias k)) →
      s.userByte dir (ph.address loadBias k) = some (image.bytes (ph.pOffset + BitVec.ofNat 32 k))
  zero : ∀ ph ∈ image.phdrs, ph.loads = true → ∀ k, ph.pFilesz.toNat ≤ k → k < ph.pMemsz.toNat →
    s.userByte dir (ph.address loadBias k) = some 0
  stack : s.userPte dir stackPage = stacked.userPte dir stackPage ∧
    ∀ va, pageNo va = stackPage → s.userByte dir va = some 0

/-- The segments do not destroy what is on their pages. A byte of the file that no later segment
covers is zero when a later one has a page there; what the last one with a page there puts over the
zeros of an earlier one is zero; and none has the page of the stack. -/
structure UserImage.LoadsWhole (image : UserImage) (loadBias : BitVec 32) : Prop where
  file : ∀ earlier ph later, image.phdrs = earlier ++ ph :: later → ph.loads = true →
    ∀ k < ph.pFilesz.toNat, (∀ ph' ∈ later, ¬ ph'.Covers loadBias (ph.address loadBias k)) →
      (∃ ph' ∈ later, pageNo (ph.address loadBias k) ∈ ph'.pages loadBias) →
        image.bytes (ph.pOffset + BitVec.ofNat 32 k) = 0
  zero : ∀ ph ∈ image.phdrs, ph.loads = true → ∀ k, ph.pFilesz.toNat ≤ k → k < ph.pMemsz.toNat →
    ∀ earlier ph' later, image.phdrs = earlier ++ ph' :: later →
      ph'.CoversFile loadBias (ph.address loadBias k) →
      (∀ ph'' ∈ later, pageNo (ph.address loadBias k) ∉ ph''.pages loadBias) →
        image.bytes (ph'.pOffset + ph'.offsetOf loadBias (ph.address loadBias k)) = 0
  stack : ∀ ph ∈ image.phdrs, stackPage ∉ ph.pages loadBias

lemma List.exists_last {α : Type*} {p : α → Prop} {l : List α} (h : ∃ x ∈ l, p x) :
    ∃ l₁ x l₂, l = l₁ ++ x :: l₂ ∧ p x ∧ ∀ y ∈ l₂, ¬ p y := by
  induction l with
  | nil => simp at h
  | cons a l ih =>
    by_cases hrest : ∃ x ∈ l, p x
    · obtain ⟨l₁, x, l₂, rfl, hx, hl₂⟩ := ih hrest
      exact ⟨a :: l₁, x, l₂, rfl, hx, hl₂⟩
    · have ha : p a := by
        obtain ⟨x, hx, hp⟩ := h
        rcases List.mem_cons.1 hx with rfl | hx
        · exact hp
        · exact absurd ⟨x, hx, hp⟩ hrest
      exact ⟨[], a, l, rfl, ha, fun y hy hp => hrest ⟨y, hy, hp⟩⟩

lemma Elf32Phdr.offsetOf_address (loadBias : BitVec 32) (ph : Elf32Phdr) {k : Nat}
    (hk : k < ph.pMemsz.toNat) :
    ph.offsetOf loadBias (ph.address loadBias k) = BitVec.ofNat 32 k ∧
      (BitVec.ofNat 32 k).toNat = k := by
  refine ⟨?_, ?_⟩
  · rw [Elf32Phdr.offsetOf, Elf32Phdr.address, BitVec.add_comm, BitVec.add_sub_cancel]
  · exact Nat.mod_eq_of_lt (by omega)

section

variable (h : s.LoadsSegments image loadBias dir image.phdrs s')

include h

variable {ph : Elf32Phdr}

lemma Paging.LoadsSegments.userByte_of_last {earlier later : List Elf32Phdr} {va : BitVec 32}
    (hsplit : image.phdrs = earlier ++ ph :: later) (hpage : pageNo va ∈ ph.pages loadBias)
    (hlater : ∀ ph' ∈ later, pageNo va ∉ ph'.pages loadBias) :
    s'.userByte dir va = some (if ph.offsetOf loadBias va < ph.pFilesz
      then image.bytes (ph.pOffset + ph.offsetOf loadBias va) else 0) := by
  have hlast : image.phdrs.reverse.findSome? (segmentByte image loadBias va) =
      some (if ph.offsetOf loadBias va < ph.pFilesz
        then image.bytes (ph.pOffset + ph.offsetOf loadBias va) else 0) := by
    refine List.findSome?_eq_some_iff.2 ⟨later.reverse, ph, earlier.reverse, ?_, if_pos hpage,
      fun ph' hmem => if_neg (hlater ph' (List.mem_reverse.1 hmem))⟩
    rw [hsplit]
    simp
  rw [h.bytes, hlast, Option.some_or]

lemma Paging.LoadsSegments.covered (hmem : ph ∈ image.phdrs) (hloads : ph.loads = true) {k : Nat}
    (hk : k < ph.pMemsz.toNat) :
    pageNo (ph.address loadBias k) ∈ ph.pages loadBias := by
  obtain ⟨hoffset, htoNat⟩ := ph.offsetOf_address loadBias hk
  refine Elf32Phdr.mem_pages_of_covers (h.accepted ph hmem hloads) ⟨hloads, ?_⟩
  rw [hoffset]
  exact BitVec.lt_def.2 (by rwa [htoNat])

lemma Paging.LoadsSegments.userByte_of_later {earlier later : List Elf32Phdr} {va : BitVec 32}
    (hsplit : image.phdrs = earlier ++ ph :: later)
    (hpage : ∃ ph' ∈ later, pageNo va ∈ ph'.pages loadBias) :
    ∃ earlier' ph' later', image.phdrs = earlier' ++ ph' :: later' ∧ ph' ∈ later ∧
      pageNo va ∈ ph'.pages loadBias ∧ (∀ ph'' ∈ later', pageNo va ∉ ph''.pages loadBias) ∧
      s'.userByte dir va = some (if ph'.offsetOf loadBias va < ph'.pFilesz
        then image.bytes (ph'.pOffset + ph'.offsetOf loadBias va) else 0) := by
  obtain ⟨mid, ph', rest, hlater, hpage, hrest⟩ := List.exists_last hpage
  have hsplit' : image.phdrs = (earlier ++ ph :: mid) ++ ph' :: rest := by
    rw [hsplit, hlater]
    simp
  exact ⟨_, ph', rest, hsplit', by simp [hlater], hpage, hrest,
    h.userByte_of_last hsplit' hpage hrest⟩

lemma imageLaw_iff {e : BitVec 32} (he : s.userPte dir stackPage = some e)
    (hused : s.memoryBitmap.Used (frameOf e))
    (hzero : ∀ va, pageNo va = stackPage → s.userByte dir va = some 0) :
    ImageLaw image loadBias dir s s' ↔ image.LoadsWhole loadBias := by
  have hfile : ∀ ph ∈ image.phdrs, ∀ va, pageNo va ∈ ph.pages loadBias →
      ¬ ph.Covers loadBias va → ¬ ph.offsetOf loadBias va < ph.pFilesz := by
    intro ph hmem va hpage hcovers hlt
    have hloads := Elf32Phdr.loads_of_mem_pages hpage
    exact hcovers (Elf32Phdr.covers_of_coversFile (h.accepted ph hmem hloads) ⟨hloads, hlt⟩)
  have hlater : ∀ {earlier ph later}, image.phdrs = earlier ++ ph :: later →
      ph ∈ image.phdrs ∧ ∀ ph' ∈ later, ph' ∈ image.phdrs := by
    intro earlier ph later hsplit
    rw [hsplit]
    exact ⟨by simp, fun ph' hmem => by simp [hmem]⟩
  have hle : ∀ ph ∈ image.phdrs, ph.loads = true → ph.pFilesz.toNat ≤ ph.pMemsz.toNat :=
    fun ph hmem hloads => not_lt.1 (Elf32Phdr.range_of_accepted (h.accepted ph hmem hloads)).2
  constructor
  · intro hlaw
    refine ⟨fun earlier ph later hsplit hloads k hk hcovers hpage => ?_,
      fun ph hmem hloads k hfilesz hk earlier ph' later hsplit hcovers hrest => ?_,
      fun ph hmem hpage => ?_⟩
    · obtain ⟨-, ph', -, -, hmem', hpage', -, hbyte⟩ := h.userByte_of_later hsplit hpage
      rw [hlaw.file earlier ph later hsplit hloads k hk hcovers,
        if_neg (hfile ph' ((hlater hsplit).2 ph' hmem') _ hpage' (hcovers ph' hmem'))] at hbyte
      exact Option.some.inj hbyte
    · have haccepted := h.accepted ph' (hlater hsplit).1 hcovers.1
      have hbyte := h.userByte_of_last hsplit (Elf32Phdr.mem_pages_of_covers haccepted
        (Elf32Phdr.covers_of_coversFile haccepted hcovers)) hrest
      rw [hlaw.zero ph hmem hloads k hfilesz hk, if_pos hcovers.2] at hbyte
      exact (Option.some.inj hbyte).symm
    · -- the page that was taken for the segment was free while that of the stack was in use
      obtain ⟨e', he', hfree⟩ := h.fresh stackPage (by decide) ⟨ph, hmem, hpage⟩
      rw [hlaw.stack.1, he] at he'
      obtain rfl := Option.some.inj he'
      exact hfree hused
  · intro hwhole
    refine ⟨fun earlier ph later hsplit hloads k hk hcovers => ?_,
      fun ph hmem hloads k hfilesz hk => ?_, ?_, fun va hva => ?_⟩
    · have hmem := (hlater hsplit).1
      have hmemsz := hk.trans_le (hle ph hmem hloads)
      by_cases hpage : ∃ ph' ∈ later, pageNo (ph.address loadBias k) ∈ ph'.pages loadBias
      · obtain ⟨-, ph', -, -, hmem', hpage', -, hbyte⟩ := h.userByte_of_later hsplit hpage
        rw [hbyte, hwhole.file earlier ph later hsplit hloads k hk hcovers hpage,
          if_neg (hfile ph' ((hlater hsplit).2 ph' hmem') _ hpage' (hcovers ph' hmem'))]
      · obtain ⟨hoffset, htoNat⟩ := ph.offsetOf_address loadBias hmemsz
        rw [h.userByte_of_last hsplit (h.covered hmem hloads hmemsz) fun ph' hmem' hpage' =>
          hpage ⟨ph', hmem', hpage'⟩, hoffset, if_pos (BitVec.lt_def.2 (by rwa [htoNat]))]
    · have hpages : ∃ ph' ∈ image.phdrs, pageNo (ph.address loadBias k) ∈ ph'.pages loadBias :=
        ⟨ph, hmem, h.covered hmem hloads hk⟩
      obtain ⟨earlier, ph', later, hsplit, hpage, hrest⟩ := List.exists_last hpages
      rw [h.userByte_of_last hsplit hpage hrest]
      split_ifs with hlt
      · rw [hwhole.zero ph hmem hloads k hfilesz hk earlier ph' later hsplit
          ⟨Elf32Phdr.loads_of_mem_pages hpage, hlt⟩ hrest]
      · rfl
    · exact h.kept stackPage (by decide) hwhole.stack
    · have hnone : image.phdrs.reverse.findSome? (segmentByte image loadBias va) = none := by
        refine List.findSome?_eq_none_iff.2 fun ph hmem => if_neg ?_
        rw [hva]
        exact hwhole.stack ph (List.mem_reverse.1 hmem)
      rw [h.bytes, hnone, Option.none_or, hzero va hva]

end

variable {exports : List ModuleExport}

/-! ### Exec -/

/-- The file has a section of relocations, in a table that the loader looks at. -/
def UserImage.HasRelocations (image : UserImage) : Prop :=
  image.eShoff ≠ 0 ∧ image.eShentsize = 40 ∧
    ∃ i < image.eShnum.toNat, (image.shdr i).shType = 4 ∨ (image.shdr i).shType = 9

lemma relocateSection_none {i : Nat}
    (hi : ¬ ((image.shdr i).shType = 4 ∨ (image.shdr i).shType = 9)) (s : Paging) :
    (Loader.relocateSection image exports pd loadBias s i).result = .ok s := by
  obtain ⟨hrela, hrel⟩ := not_or.1 hi
  have hkind : ¬ ((image.shdr i).shType = 9 ∧ (image.shdr i).shEntsize = 8 ∨
      (image.shdr i).shType = 4 ∧ (image.shdr i).shEntsize = 12) := by
    rintro (⟨h, -⟩ | ⟨h, -⟩)
    · exact hrel h
    · exact hrela h
  have hread : (Loader.readShdr image i).result = .ok (image.shdr i) := rfl
  unfold Loader.relocateSection
  rw [(Logged.bind_of_ok hread _).2]
  split_ifs
  · rfl
  · rfl

lemma applyElfRelocations_none (himage : ¬ image.HasRelocations)
    (hok : (Loader.applyElfRelocations image exports pd loadBias s).result = .ok s') : s' = s := by
  simp only [Loader.applyElfRelocations] at hok
  split_ifs at hok with hnone hcheck
  · exact (Except.ok.inj hok).symm
  · cases hok
  obtain ⟨hshoff, hrest⟩ := not_or.1 hnone
  have hsections : ∀ i < image.eShnum.toNat,
      ¬ ((image.shdr i).shType = 4 ∨ (image.shdr i).shType = 9) := fun i hi htype =>
    himage ⟨hshoff, not_not.1 (not_or.1 hrest).2, i, hi, htype⟩
  rw [(Logged.tell_bind _ _).2, Logged.result_foldlM] at hok
  have hloop : ∀ l : List Nat, (∀ i ∈ l, i < image.eShnum.toNat) →
      l.foldlM (fun s i => (Loader.relocateSection image exports pd loadBias s i).result) s =
        .ok s := by
    intro l hl
    induction l with
    | nil => rfl
    | cons i l ih =>
      rw [List.foldlM_cons, relocateSection_none (hsections i (hl i List.mem_cons_self))]
      exact ih fun j hj => hl j (List.mem_cons_of_mem _ hj)
  rw [hloop _ fun i hi => List.mem_range.1 hi] at hok
  exact (Except.ok.inj hok).symm

lemma ExecMemory.loads {k : KernelLayout} {s₀ : Paging} (h : ExecMemory k s₀ pd s)
    (himage : ¬ image.HasRelocations) {ticks : BitVec 32}
    (hbias : image.loadBias ticks = some loadBias)
    (hok : (Loader.loadElf32Image image ticks exports pd s).result = .ok s') :
    s.LoadsSegments image loadBias (frameOf pd) image.phdrs s' := by
  obtain ⟨hpd, hs, -⟩ := h.loaded
  have hok : (Loader.loadSegments image ticks exports pd s).result = .ok s' := by
    unfold Loader.loadElf32Image at hok
    split_ifs at hok
    · cases hok
    · exact hok
    · cases hok
  obtain ⟨-, -, hloads⟩ := Logged.of_result_bind hok
  rw [hbias] at hloads
  obtain ⟨s₁, hloop, hrest⟩ := Logged.of_result_bind hloads
  obtain ⟨s₂, hrelocate, hentry⟩ := Logged.of_result_bind hrest
  have hsame : s' = s₁ := by
    dsimp only at hentry
    split_ifs at hentry
    · cases hentry
    · exact (Except.ok.inj hentry).symm.trans (applyElfRelocations_none himage hrelocate)
    · cases hentry
  rw [hsame]
  exact foldlM_loadSegment_loads hs h.booted.low hpd rfl hloop

lemma ExecMemory.stackPage {k : KernelLayout} {s₀ : Paging} (h : ExecMemory k s₀ pd s) :
    (∃ e, s.userPte (frameOf pd) stackPage = some e ∧ s.memoryBitmap.Used (frameOf e)) ∧
      ∀ va, pageNo va = NeuroSpark.stackPage → s.userByte (frameOf pd) va = some 0 := by
  obtain ⟨-, hs, s₁, hmaps⟩ := h.loaded
  obtain ⟨e, he, -⟩ := hmaps.fresh _ (by decide) rfl
  obtain ⟨base', -, -, hsound⟩ := hs.sound
  refine ⟨⟨e, he, (hsound.apart_of_userPte he).1⟩, fun va hva => ?_⟩
  rw [hmaps.userByte, if_pos hva]

end

/-- The image law holds of an accepted image without relocations just when its segments do not
destroy what is on their pages. -/
theorem loadElf32Image_law_iff {k : KernelLayout} {s₀ s s' : Paging} {pd : BitVec 32}
    (h : ExecMemory k s₀ pd s) {image : UserImage} (himage : ¬ image.HasRelocations)
    {ticks loadBias : BitVec 32} (hbias : image.loadBias ticks = some loadBias)
    {exports : List ModuleExport}
    (hok : (Loader.loadElf32Image image ticks exports pd s).result = .ok s') :
    ImageLaw image loadBias (frameOf pd) s s' ↔ image.LoadsWhole loadBias := by
  obtain ⟨⟨e, he, hused⟩, hzero⟩ := h.stackPage
  exact imageLaw_iff (h.loads himage hbias hok) he hused hzero

/-- The bytes of a program header for the first byte of the file, which is loaded at a page of which
the second byte of the address is given. -/
def segmentBytes (offset : BitVec 32) (vaddr : BitVec 8) : List (BitVec 32 × BitVec 8) :=
  [(offset, 1), (offset + 9, vaddr), (offset + 11, 0x40), (offset + 16, 1), (offset + 20, 1)]

/-- Two segments of one byte that have a page in common. -/
def sharedPageImage : UserImage :=
  sparseImage 116 (headerBytes 52 2 ++ segmentBytes 52 0x20 ++ segmentBytes 84 0x28)

def onePageImage : UserImage := sparseImage 84 (headerBytes 52 1 ++ segmentBytes 52 0x20)

lemma exec_above2MB {image : UserImage}
    (hok : (setupUserStack 0x200000 (createUserPageDirectory kernelOf2MB memoryAbove2MB).1 >>=
      fun s => (Loader.loadElf32Image image 0 [] 0x200000 s).result).isOk = true) :
    ∃ s s', ExecMemory kernelOf2MB memoryAbove2MB 0x200000 s ∧
      (Loader.loadElf32Image image 0 [] 0x200000 s).result = .ok s' := by
  obtain ⟨s, hs⟩ := execMemory_above2MB
  rw [hs.stack] at hok
  change (Loader.loadElf32Image image 0 [] 0x200000 s).result.isOk = true at hok
  cases hload : (Loader.loadElf32Image image 0 [] 0x200000 s).result with
  | error e =>
    rw [hload] at hok
    cases hok
  | ok s' => exact ⟨s, s', hs, hload⟩

/-- The page of the first segment is mapped over for the second one, and its byte is lost. -/
theorem loadElf32Image_not_law :
    ∃ s s', ExecMemory kernelOf2MB memoryAbove2MB 0x200000 s ∧ ¬ sharedPageImage.HasRelocations ∧
      sharedPageImage.loadBias 0 = some 0 ∧
      (Loader.loadElf32Image sharedPageImage 0 [] 0x200000 s).result = .ok s' ∧
      ¬ ImageLaw sharedPageImage 0 (frameOf 0x200000) s s' := by
  obtain ⟨s, s', hs, hok⟩ := @exec_above2MB sharedPageImage (by decide +kernel)
  have himage : ¬ sharedPageImage.HasRelocations := fun h => absurd h.1 (by decide)
  have hbias : sharedPageImage.loadBias 0 = some 0 := by decide
  refine ⟨s, s', hs, himage, hbias, hok, fun hlaw => ?_⟩
  obtain ⟨⟨e, he, hused⟩, hzero⟩ := hs.stackPage
  have hwhole := (imageLaw_iff (hs.loads himage hbias hok) he hused hzero).1 hlaw
  have hbyte := hwhole.file [] (sharedPageImage.phdr 0) [sharedPageImage.phdr 1] rfl (by decide) 0
    (by decide) (by unfold Elf32Phdr.Covers; decide) (by decide)
  exact absurd hbyte (by decide)

/-- An image of one page is loaded. -/
theorem loadElf32Image_law_iff_onePage :
    ∃ s s', ExecMemory kernelOf2MB memoryAbove2MB 0x200000 s ∧ ¬ onePageImage.HasRelocations ∧
      onePageImage.loadBias 0 = some 0 ∧
      (Loader.loadElf32Image onePageImage 0 [] 0x200000 s).result = .ok s' ∧
      (ImageLaw onePageImage 0 (frameOf 0x200000) s s' ↔ onePageImage.LoadsWhole 0) := by
  obtain ⟨s, s', hs, hok⟩ := @exec_above2MB onePageImage (by decide +kernel)
  have himage : ¬ onePageImage.HasRelocations := fun h => absurd h.1 (by decide)
  have hbias : onePageImage.loadBias 0 = some 0 := by decide
  exact ⟨s, s', hs, himage, hbias, hok, loadElf32Image_law_iff hs himage hbias hok⟩

end NeuroSpark
