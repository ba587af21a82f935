import NeuroSpark.Lib.Linked
import NeuroSpark.Mem.Allocator
import NeuroSpark.Mem.Frames
import NeuroSpark.Mem.UserRange

/-!
# The slab allocator

`slab_alloc` hands out blocks of 32, 64, 128 or 256 bytes, which it cuts from whole pages, and whole
pages for larger sizes. The free blocks of a class are linked through their first words. A block is
live from the call that hands it out to the one that gives it back, and while it is live its words
are its owner's to write.
-/

namespace NeuroSpark

open Function (update update_self update_of_ne)

/-- The word at an address. -/
def Paging.word (s : Paging) (addr : BitVec 32) : BitVec 32 :=
  s.memory (frameOf addr) (wordIndex addr)

def Paging.storeWord (s : Paging) (addr v : BitVec 32) : Paging :=
  s.setWord (frameOf addr) (wordIndex addr) v

/-- `SLAB_CACHE_COUNT` caches. -/
abbrev SlabClass := Fin 4

/-- `obj_size`, which nothing changes. -/
def SlabClass.objSize : SlabClass → Nat
  | 0 => 32
  | 1 => 64
  | 2 => 128
  | 3 => 256

/-- The other fields of a `SlabCache`. -/
structure SlabCache where
  freeList : BitVec 32
  pages : BitVec 32
  allocs : BitVec 32
  frees : BitVec 32
  inUse : BitVec 32

structure SlabState where
  paging : Paging
  slabCaches : SlabClass → SlabCache

def slabPickCache (size : Nat) : Option SlabClass :=
  (List.finRange 4).find? fun c => size ≤ c.objSize

namespace SlabState

def setCache (s : SlabState) (c : SlabClass) (cache : SlabCache) : SlabState :=
  { s with slabCaches := Function.update s.slabCaches c cache }

/-- `node->next = cache->free_list; cache->free_list = node`. -/
def pushNode (c : SlabClass) (s : SlabState) (node : BitVec 32) : SlabState :=
  let cache := s.slabCaches c
  { s with paging := s.paging.storeWord node cache.freeList }.setCache c
    { cache with freeList := node }

end SlabState

variable {u : SlabUnit} {a : BitVec 32} {c : SlabClass}

/-- The blocks of a page, in the order in which `slab_grow_cache` links them. -/
def pageBlocks (c : SlabClass) (page : BitVec 32) : List (BitVec 32) :=
  (List.range (pageSize / c.objSize)).map fun k => page + BitVec.ofNat 32 (k * c.objSize)

/-- The size of a node is that of a pointer. -/
def slabGrowCache (s : SlabState) (c : SlabClass) : SlabState × Bool :=
  if c.objSize < 4 then (s, false)
  else
    let r := s.paging.allocPage
    if r.2 = 0 then ({ s with paging := r.1 }, false)
    else
      let cache := s.slabCaches c
      let s := { s with paging := r.1 }.setCache c { cache with pages := cache.pages + 1 }
      ((pageBlocks c r.2).foldl (SlabState.pushNode c) s, true)

def slabAlloc (s : SlabState) (size : Nat) : SlabState × BitVec 32 :=
  match slabPickCache size with
  | none =>
    let r := s.paging.allocPage
    ({ s with paging := r.1 }, r.2)
  | some c =>
    let g := if (s.slabCaches c).freeList = 0 then slabGrowCache s c else (s, true)
    if !g.2 then (g.1, 0)
    else
      let cache := g.1.slabCaches c
      let node := cache.freeList
      (g.1.setCache c
        { cache with
          freeList := g.1.paging.word node
          allocs := cache.allocs + 1
          inUse := cache.inUse + 1 }, node)

def slabFree (s : SlabState) (ptr : BitVec 32) (size : Nat) : SlabState × Bool :=
  if ptr = 0 then (s, false)
  else
    match slabPickCache size with
    | none => ({ s with paging := s.paging.freePage ptr }, true)
    | some c =>
      let s := s.pushNode c ptr
      let cache := s.slabCaches c
      (s.setCache c
        { cache with
          frees := cache.frees + 1
          inUse := if 0 < cache.inUse then cache.inUse - 1 else cache.inUse }, true)

lemma wordIndex_val (addr : BitVec 32) : (wordIndex addr : Nat) = addr.toNat / 4 % 1024 := by
  rw [wordIndex, Fin.val_ofNat, BitVec.toNat_ushiftRight, Nat.shiftRight_eq_div_pow]

lemma word_storeWord (s : Paging) (addr v a : BitVec 32) :
    (s.storeWord addr v).word a = if a.toNat / 4 = addr.toNat / 4 then v else s.word a := by
  have hcell : a.toNat / 4 = addr.toNat / 4 ↔
      frameOf a = frameOf addr ∧ wordIndex a = wordIndex addr := by
    rw [Fin.ext_iff, wordIndex_val, wordIndex_val, frameOf_eq_pageNo, frameOf_eq_pageNo, pageNo,
      pageNo, pageSize]
    omega
  rw [Paging.word, Paging.word, Paging.storeWord, Paging.memory_setWord]
  by_cases hframe : frameOf a = frameOf addr
  · rw [if_pos hframe, Function.update_apply, hframe]
    simp only [hcell, hframe, true_and]
  · rw [if_neg hframe, if_neg fun h => hframe (hcell.1 h).1]

/-! ### Blocks -/

/-- What a block is: of a class, or a whole page. -/
abbrev SlabUnit := Option SlabClass

def SlabUnit.size : SlabUnit → Nat
  | some c => c.objSize
  | none => pageSize

/-- The block at `a` has the byte at `x`. -/
def InBlock (u : SlabUnit) (a : BitVec 32) (x : Nat) : Prop := a.toNat ≤ x ∧ x < a.toNat + u.size

instance (u : SlabUnit) (a : BitVec 32) (x : Nat) : Decidable (InBlock u a x) :=
  inferInstanceAs (Decidable (_ ∧ _))

/-- The unit from which a size is served. -/
def slabUnit (size : Nat) : SlabUnit := slabPickCache size

lemma le_size_slabUnit {size : Nat} (h : size ≤ pageSize) : size ≤ (slabUnit size).size := by
  unfold slabUnit
  cases hpick : slabPickCache size with
  | none => exact h
  | some c => simpa [SlabUnit.size] using List.find?_some hpick

lemma SlabClass.objSize_cases (c : SlabClass) :
    c.objSize = 32 ∨ c.objSize = 64 ∨ c.objSize = 128 ∨ c.objSize = 256 := by
  match c with
  | 0 | 1 | 2 | 3 => simp [objSize]

lemma SlabClass.blocks_of_page (c : SlabClass) : 16 ≤ pageSize / c.objSize := by
  rcases c.objSize_cases with hc | hc | hc | hc <;> rw [hc] <;> decide

lemma SlabUnit.size_cases (u : SlabUnit) :
    u.size = 32 ∨ u.size = 64 ∨ u.size = 128 ∨ u.size = 256 ∨ u.size = 4096 := by
  cases u with
  | none => simp [size, pageSize]
  | some c =>
    have := c.objSize_cases
    tauto

lemma InBlock.page {x : Nat} (h : InBlock u a x)
    (ha : a.toNat % u.size = 0) : x / pageSize = pageNo a := by
  obtain ⟨hle, hlt⟩ := h
  rw [pageNo, pageSize]
  rcases u.size_cases with hu | hu | hu | hu | hu <;> rw [hu] at ha hlt <;> omega

lemma InBlock.eq {a b : BitVec 32} {x : Nat} (h : InBlock u a x) (ha : a.toNat % u.size = 0)
    (h' : InBlock u b x) (hb : b.toNat % u.size = 0) : a = b := by
  obtain ⟨hle, hlt⟩ := h
  obtain ⟨hle', hlt'⟩ := h'
  apply BitVec.eq_of_toNat_eq
  rcases u.size_cases with hu | hu | hu | hu | hu <;> rw [hu] at ha hb hlt hlt' <;> omega

lemma InBlock.self (a : BitVec 32) : InBlock u a a.toNat := by
  refine ⟨le_rfl, Nat.lt_add_of_pos_right ?_⟩
  rcases u.size_cases with hu | hu | hu | hu | hu <;> rw [hu] <;> decide

lemma InBlock.of_word {x : Nat} (ha : a.toNat % u.size = 0)
    (hword : a.toNat / 4 = x / 4) : InBlock u a x := by
  unfold InBlock
  rcases u.size_cases with hu | hu | hu | hu | hu <;> rw [hu] at ha ⊢ <;> omega

lemma SlabUnit.mod_four (h : a.toNat % u.size = 0) : a.toNat % 4 = 0 := by
  rcases u.size_cases with hu | hu | hu | hu | hu <;> rw [hu] at h <;> omega

lemma word_ne_of_ne {a b : BitVec 32} (ha : a.toNat % 4 = 0) (hb : b.toNat % 4 = 0) (hne : a ≠ b) :
    a.toNat / 4 ≠ b.toNat / 4 := fun h => hne (BitVec.eq_of_toNat_eq (by omega))

lemma toNat_pageBlock {page k : Nat} (hpage : page < pageCount) (hk : k < pageSize / c.objSize) :
    (pageAddress page + BitVec.ofNat 32 (k * c.objSize)).toNat = page * pageSize + k * c.objSize ∧
      k * c.objSize < pageSize := by
  have hlt : k * c.objSize < pageSize := by
    rcases c.objSize_cases with hc | hc | hc | hc <;> rw [hc] at hk ⊢ <;> omega
  refine ⟨?_, hlt⟩
  unfold pageCount at hpage
  rw [BitVec.toNat_add, toNat_pageAddress hpage, BitVec.toNat_ofNat]
  unfold pageSize at hlt ⊢
  omega

lemma mem_pageBlocks {page : Nat} (hpage : page < pageCount)
    (ha : a ∈ pageBlocks c (pageAddress page)) :
    pageNo a = page ∧ a.toNat % c.objSize = 0 := by
  obtain ⟨k, hk, rfl⟩ := List.mem_map.1 ha
  rw [List.mem_range] at hk
  obtain ⟨hval, hlt⟩ := toNat_pageBlock hpage hk
  rw [pageNo, hval]
  unfold pageSize at hlt ⊢
  rcases c.objSize_cases with hc | hc | hc | hc <;> rw [hc] at hlt ⊢ <;> omega

lemma nodup_pageBlocks {page : Nat} (hpage : page < pageCount) :
    (pageBlocks c (pageAddress page)).Nodup := by
  refine List.Nodup.map_on (fun k hk j hj heq => ?_) List.nodup_range
  rw [List.mem_range] at hk hj
  have hval := congrArg BitVec.toNat heq
  rw [(toNat_pageBlock hpage hk).1, (toNat_pageBlock hpage hj).1] at hval
  rcases c.objSize_cases with hc | hc | hc | hc <;> rw [hc] at hval <;> omega

lemma length_pageBlocks (c : SlabClass) (addr : BitVec 32) :
    (pageBlocks c addr).length = pageSize / c.objSize := by
  simp [pageBlocks]

/-! ### The free lists -/

/-- The nodes on the free list of every class. -/
def SlabState.Threaded (s : SlabState) (nodes : SlabClass → List (BitVec 32)) : Prop :=
  ∀ c, Linked.IsList s.paging.word 0 (s.slabCaches c).freeList (nodes c)

variable {s : SlabState} {nodes : SlabClass → List (BitVec 32)} {c : SlabClass} {a : BitVec 32}

@[simp] lemma paging_setCache (s : SlabState) (c : SlabClass) (cache : SlabCache) :
    (s.setCache c cache).paging = s.paging := rfl

@[simp] lemma slabCaches_setCache (s : SlabState) (c : SlabClass) (cache : SlabCache) :
    (s.setCache c cache).slabCaches = update s.slabCaches c cache := rfl

lemma slabCaches_pushNode (c : SlabClass) (s : SlabState) (a : BitVec 32) :
    (s.pushNode c a).slabCaches =
      update s.slabCaches c { s.slabCaches c with freeList := a } := rfl

lemma SlabState.Threaded.storeWord (h : s.Threaded nodes) {addr v : BitVec 32}
    (hother : ∀ c, ∀ n ∈ nodes c, n.toNat / 4 ≠ addr.toNat / 4) :
    SlabState.Threaded { s with paging := s.paging.storeWord addr v } nodes := fun c =>
  (h c).congr fun n hn => by rw [word_storeWord, if_neg (hother c n hn)]

lemma SlabState.Threaded.congr {s' : SlabState} (h : s.Threaded nodes)
    (hword : s'.paging.memory = s.paging.memory)
    (hhead : ∀ c, (s'.slabCaches c).freeList = (s.slabCaches c).freeList) : s'.Threaded nodes := by
  intro c
  have hsame : s'.paging.word = s.paging.word := by
    funext a
    rw [Paging.word, hword, Paging.word]
  rw [hhead, hsame]
  exact h c

lemma SlabState.Threaded.push (h : s.Threaded nodes) (ha : a ≠ 0)
    (hother : ∀ c, ∀ n ∈ nodes c, n.toNat / 4 ≠ a.toNat / 4) :
    (s.pushNode c a).Threaded (update nodes c (a :: nodes c)) := by
  intro c'
  have hold := h.storeWord (v := (s.slabCaches c).freeList) hother
  rw [slabCaches_pushNode]
  rcases eq_or_ne c' c with rfl | hne
  · rw [update_self, update_self]
    refine ⟨rfl, ha, ?_⟩
    have hlink : (s.pushNode c' a).paging.word a = (s.slabCaches c').freeList := by
      simp [SlabState.pushNode, word_storeWord]
    rw [hlink]
    exact hold c'
  · rw [update_of_ne hne, update_of_ne hne]
    exact hold c'

lemma SlabState.Threaded.pushAll {l : List (BitVec 32)} (h : s.Threaded nodes)
    (hzero : ∀ a ∈ l, a ≠ 0) (hother : ∀ a ∈ l, ∀ c, ∀ n ∈ nodes c, n.toNat / 4 ≠ a.toNat / 4)
    (hapart : l.Pairwise fun a b => a.toNat / 4 ≠ b.toNat / 4) :
    (l.foldl (SlabState.pushNode c) s).Threaded
      (update nodes c (l.reverse ++ nodes c)) := by
  induction l generalizing s nodes with
  | nil => simpa using h
  | cons a l ih =>
    obtain ⟨hfirst, hrest⟩ := List.pairwise_cons.1 hapart
    have hpush := h.push (c := c) (hzero a List.mem_cons_self) (hother a List.mem_cons_self)
    have hlater := ih hpush (fun b hb => hzero b (List.mem_cons_of_mem a hb)) ?_ hrest
    · simpa using hlater
    · intro b hb c' n hn
      rcases eq_or_ne c' c with rfl | hne
      · rw [update_self] at hn
        rcases List.mem_cons.1 hn with rfl | hn
        · exact hfirst b hb
        · exact hother b (List.mem_cons_of_mem a hb) c' n hn
      · rw [update_of_ne hne] at hn
        exact hother b (List.mem_cons_of_mem a hb) c' n hn

lemma foldl_pushNode (l : List (BitVec 32)) (s : SlabState) :
    (l.foldl (SlabState.pushNode c) s).paging.memoryBitmap = s.paging.memoryBitmap ∧
      ∃ head, (l.foldl (SlabState.pushNode c) s).slabCaches =
        update s.slabCaches c { s.slabCaches c with freeList := head } := by
  induction l generalizing s with
  | nil => exact ⟨rfl, (s.slabCaches c).freeList, (Function.update_eq_self c s.slabCaches).symm⟩
  | cons a l ih =>
    obtain ⟨hbitmap, head, hcaches⟩ := ih (s.pushNode c a)
    refine ⟨hbitmap, head, ?_⟩
    rw [List.foldl_cons, hcaches, slabCaches_pushNode]
    simp

/-! ### The layout of memory -/

/-- A block that is handed out, with the size that was asked for. -/
abbrev LiveBlock := BitVec 32 × Nat

/-- The live blocks of a unit. -/
def liveIn (live : List LiveBlock) (u : SlabUnit) : List (BitVec 32) :=
  (live.filter fun x => slabUnit x.2 = u).map Prod.fst

/-- The free blocks of a unit. -/
def nodesIn (nodes : SlabClass → List (BitVec 32)) : SlabUnit → List (BitVec 32)
  | some c => nodes c
  | none => []

lemma nodesIn_update_of_ne {u : SlabUnit} (hne : u ≠ some c) (l : List (BitVec 32)) :
    nodesIn (update nodes c l) u = nodesIn nodes u := by
  cases u with
  | none => rfl
  | some c' => exact update_of_ne (fun heq => hne (congrArg some heq)) ..

lemma nodesIn_update_append (u : SlabUnit) (l : List (BitVec 32)) :
    nodesIn (update nodes c (l ++ nodes c)) u =
      (if u = some c then l else []) ++ nodesIn nodes u := by
  split_ifs with hu
  · rw [hu, nodesIn, update_self, nodesIn]
  · rw [nodesIn_update_of_ne hu, List.nil_append]

/-- `owner` says which pages are cut into blocks of which unit. The blocks of a unit are either free
or live, and lie in its pages. -/
structure SlabState.Layout (s : SlabState) (live : List LiveBlock) (owner : Nat → Option SlabUnit)
    (nodes : SlabClass → List (BitVec 32)) : Prop where
  low : ∀ page < firstUserPage, s.paging.memoryBitmap.Used page
  used : ∀ page u, owner page = some u → s.paging.memoryBitmap.Used page ∧ firstUserPage ≤ page
  threaded : s.Threaded nodes
  nodup : ∀ u, (nodesIn nodes u ++ liveIn live u).Nodup
  placed : ∀ u, ∀ a ∈ nodesIn nodes u ++ liveIn live u,
    owner (pageNo a) = some u ∧ a.toNat % u.size = 0
  pages : ∀ c, (s.slabCaches c).pages.toNat * (pageSize / c.objSize) =
    (s.slabCaches c).inUse.toNat + (nodes c).length
  inUse : ∀ c, (s.slabCaches c).inUse.toNat = (liveIn live (some c)).length
  counters : ∀ c, (s.slabCaches c).allocs - (s.slabCaches c).frees = (s.slabCaches c).inUse

variable {live live' : List LiveBlock} {owner : Nat → Option SlabUnit} {x y : LiveBlock}

lemma mem_liveIn (hx : x ∈ live) : x.1 ∈ liveIn live (slabUnit x.2) :=
  List.mem_map_of_mem (List.mem_filter.2 ⟨hx, by simp⟩)

lemma liveIn_cons (x : LiveBlock) (live : List LiveBlock) (u : SlabUnit) :
    liveIn (x :: live) u = if slabUnit x.2 = u then x.1 :: liveIn live u else liveIn live u := by
  unfold liveIn
  split_ifs <;> simp_all

lemma liveIn_perm (h : live.Perm live') (u : SlabUnit) : (liveIn live u).Perm (liveIn live' u) :=
  (h.filter _).map _

lemma liveIn_erase (hx : x ∈ live) (u : SlabUnit) : (liveIn live u).Perm
    (if slabUnit x.2 = u then x.1 :: liveIn (live.erase x) u else liveIn (live.erase x) u) := by
  rw [← liveIn_cons]
  exact liveIn_perm (List.perm_cons_erase hx) u

lemma liveIn_erase_sublist (x : LiveBlock) (live : List LiveBlock) (u : SlabUnit) :
    (liveIn (live.erase x) u).Sublist (liveIn live u) := (List.erase_sublist.filter _).map _

namespace SlabState.Layout

variable {page : Nat} (h : s.Layout live owner nodes)
include h

lemma placed_live (hx : x ∈ live) :
    owner (pageNo x.1) = some (slabUnit x.2) ∧ x.1.toNat % (slabUnit x.2).size = 0 :=
  h.placed _ _ (List.mem_append_right _ (mem_liveIn hx))

lemma placed_node (ha : a ∈ nodes c) : owner (pageNo a) = some (some c) ∧ a.toNat % c.objSize = 0 :=
  h.placed (some c) a (List.mem_append_left _ ha)

lemma eq_of_shared {u v : SlabUnit} {a b : BitVec 32} {n : Nat}
    (ha : a ∈ nodesIn nodes u ++ liveIn live u) (hb : b ∈ nodesIn nodes v ++ liveIn live v)
    (hna : InBlock u a n) (hnb : InBlock v b n) : u = v ∧ a = b := by
  obtain ⟨hau, ha0⟩ := h.placed u a ha
  obtain ⟨hbv, hb0⟩ := h.placed v b hb
  have hpage : pageNo a = pageNo b := (hna.page ha0).symm.trans (hnb.page hb0)
  rw [hpage, hbv] at hau
  cases hau
  exact ⟨rfl, hna.eq ha0 hnb hb0⟩

lemma ne_zero {u : SlabUnit} (ha : a ∈ nodesIn nodes u ++ liveIn live u) : a ≠ 0 := by
  rintro rfl
  have hpage := (h.used _ u (h.placed u 0 ha).1).2
  exact absurd hpage (by decide)

lemma node_not_live (ha : a ∈ nodes c) (hx : x ∈ live) : a ≠ x.1 := by
  rintro rfl
  have heq := (h.placed_node ha).1.symm.trans (h.placed_live hx).1
  have hunit : slabUnit x.2 = some c := (Option.some.inj heq).symm
  have hmem := mem_liveIn hx
  rw [hunit] at hmem
  exact List.disjoint_of_nodup_append (h.nodup (some c)) ha hmem

lemma length_le (u : SlabUnit) :
    (nodesIn nodes u ++ liveIn live u).length ≤ pageCount * pageSize := by
  have hsub : ((nodesIn nodes u ++ liveIn live u).map BitVec.toNat).toFinset ⊆
      Finset.range (pageCount * pageSize) := by
    intro n hn
    obtain ⟨a, ha, rfl⟩ := List.mem_map.1 (List.mem_toFinset.1 hn)
    have hlt := (h.used _ u (h.placed u a ha).1).1.lt
    rw [Finset.mem_range]
    unfold pageNo pageSize at hlt
    unfold pageSize
    omega
  have hnodup : ((nodesIn nodes u ++ liveIn live u).map BitVec.toNat).Nodup :=
    (h.nodup u).map fun _ _ heq => BitVec.eq_of_toNat_eq heq
  have hcard := Finset.card_le_card hsub
  rwa [List.toFinset_card_of_nodup hnodup, List.length_map, Finset.card_range] at hcard

/-! ### Steps -/

lemma of_perm {nodes' : SlabClass → List (BitVec 32)}
    (hperm : ∀ u, (nodesIn nodes' u ++ liveIn live' u).Perm (nodesIn nodes u ++ liveIn live u)) :
    (∀ u, (nodesIn nodes' u ++ liveIn live' u).Nodup) ∧
      ∀ u, ∀ a ∈ nodesIn nodes' u ++ liveIn live' u,
        owner (pageNo a) = some u ∧ a.toNat % u.size = 0 :=
  ⟨fun u => (hperm u).nodup_iff.2 (h.nodup u),
    fun u a ha => h.placed u a ((hperm u).mem_iff.1 ha)⟩

/-- A node is taken from the free list of its class. -/
lemma take {size : Nat} (hunit : slabUnit size = some c) (hhead : (s.slabCaches c).freeList ≠ 0) :
    ∃ nodes', SlabState.Layout (s.setCache c
        { s.slabCaches c with
          freeList := s.paging.word (s.slabCaches c).freeList
          allocs := (s.slabCaches c).allocs + 1
          inUse := (s.slabCaches c).inUse + 1 })
      (((s.slabCaches c).freeList, size) :: live) owner nodes' := by
  obtain ⟨rest, hnodes, hrest⟩ := (h.threaded c).pop hhead
  have hlive : liveIn (((s.slabCaches c).freeList, size) :: live) (some c) =
      (s.slabCaches c).freeList :: liveIn live (some c) := by
    rw [liveIn_cons, if_pos hunit]
  have hperm : ∀ u, (nodesIn (update nodes c rest) u ++
      liveIn (((s.slabCaches c).freeList, size) :: live) u).Perm
        (nodesIn nodes u ++ liveIn live u) := by
    intro u
    rcases eq_or_ne u (some c) with rfl | hne
    · rw [hlive, nodesIn, nodesIn, update_self, hnodes]
      exact List.perm_middle
    · rw [nodesIn_update_of_ne hne, liveIn_cons, if_neg (hunit ▸ hne.symm)]
  obtain ⟨hnodup, hplaced⟩ := h.of_perm hperm
  have hlength := h.length_le (some c)
  have hcount := h.inUse c
  have hnext : ((s.slabCaches c).inUse + 1).toNat = (s.slabCaches c).inUse.toNat + 1 := by
    simp only [nodesIn, hnodes, List.length_append, List.length_cons] at hlength
    unfold pageCount pageSize at hlength
    change (_ + 1) % _ = _
    omega
  refine ⟨update nodes c rest, h.low, h.used, fun c' => ?_, hnodup, hplaced, fun c' => ?_,
    fun c' => ?_, fun c' => ?_⟩
  · rw [slabCaches_setCache]
    rcases eq_or_ne c' c with rfl | hne
    · rw [update_self, update_self]
      exact hrest
    · rw [update_of_ne hne, update_of_ne hne]
      exact h.threaded c'
  · rw [slabCaches_setCache]
    rcases eq_or_ne c' c with rfl | hne
    · have hpages := h.pages c'
      rw [hnodes, List.length_cons] at hpages
      simp only [update_self, hnext]
      omega
    · simp only [update_of_ne hne]
      exact h.pages c'
  · rw [slabCaches_setCache]
    rcases eq_or_ne c' c with rfl | hne
    · rw [update_self, hlive, List.length_cons, ← hcount]
      exact hnext
    · have hother : slabUnit size ≠ some c' := by
        rw [hunit]
        exact fun heq => hne (Option.some.inj heq).symm
      rw [update_of_ne hne, liveIn_cons, if_neg hother]
      exact h.inUse c'
  · rw [slabCaches_setCache]
    rcases eq_or_ne c' c with rfl | hne
    · simp only [update_self]
      rw [← h.counters c']
      exact BitVec.add_sub_comm ..
    · rw [update_of_ne hne]
      exact h.counters c'

lemma word_ne {u : SlabUnit} (ha : a ∈ liveIn live u) {n : Nat} (hn : InBlock u a n) {b : BitVec 32}
    (hb : b ∈ nodes c) :
    b.toNat / 4 ≠ n / 4 := by
  intro hword
  have hb' : b ∈ nodesIn nodes (some c) ++ liveIn live (some c) := List.mem_append_left _ hb
  have hshared := h.eq_of_shared (List.mem_append_right _ ha) hb' hn
    (InBlock.of_word (h.placed_node hb).2 hword)
  obtain ⟨rfl, rfl⟩ := hshared
  exact List.disjoint_of_nodup_append (h.nodup (some c)) hb ha

/-- A block of a class is given back. -/
lemma give (hx : x ∈ live) (hunit : slabUnit x.2 = some c) :
    (slabFree s x.1 x.2).1.Layout (live.erase x) owner
      (update nodes c (x.1 :: nodes c)) := by
  have hmem : x.1 ∈ liveIn live (some c) := hunit ▸ mem_liveIn hx
  have hzero : x.1 ≠ 0 := h.ne_zero (List.mem_append_right (nodesIn nodes (some c)) hmem)
  have hthread := h.threaded.push (c := c) hzero fun c' n hn =>
    h.word_ne hmem (InBlock.self x.1) hn
  have hlive := liveIn_erase hx
  have hperm : ∀ u, (nodesIn (update nodes c (x.1 :: nodes c)) u ++
      liveIn (live.erase x) u).Perm (nodesIn nodes u ++ liveIn live u) := by
    intro u
    have hu := hlive u
    rcases eq_or_ne u (some c) with rfl | hne
    · rw [if_pos hunit] at hu
      rw [nodesIn, nodesIn, update_self, List.cons_append]
      exact List.perm_middle.symm.trans (hu.symm.append_left (nodes c))
    · rw [if_neg (hunit ▸ hne.symm)] at hu
      rw [nodesIn_update_of_ne hne]
      exact hu.symm.append_left _
  obtain ⟨hnodup, hplaced⟩ := h.of_perm hperm
  have hcount : (s.slabCaches c).inUse.toNat = (liveIn (live.erase x) (some c)).length + 1 := by
    have hu := (hlive (some c)).length_eq
    rw [if_pos hunit, List.length_cons] at hu
    rw [h.inUse c, hu]
  have hpos : 0 < (s.slabCaches c).inUse := by
    rw [BitVec.lt_def, hcount]
    exact Nat.succ_pos _
  have hnext : ((s.slabCaches c).inUse - 1).toNat = (liveIn (live.erase x) (some c)).length := by
    have hone : 1 ≤ (s.slabCaches c).inUse := by
      rw [BitVec.le_def, hcount]
      exact Nat.le_add_left 1 _
    rw [BitVec.toNat_sub_of_le hone, hcount]
    rfl
  have hfree : (slabFree s x.1 x.2).1 = (s.pushNode c x.1).setCache c
      { s.slabCaches c with
        freeList := x.1
        frees := (s.slabCaches c).frees + 1
        inUse := (s.slabCaches c).inUse - 1 } := by
    have hpick : slabPickCache x.2 = some c := hunit
    simp only [slabFree, if_neg hzero, hpick, slabCaches_pushNode, update_self,
      if_pos hpos]
  rw [hfree]
  refine ⟨h.low, h.used, hthread.congr rfl fun c' => ?_, hnodup, hplaced, fun c' => ?_,
    fun c' => ?_, fun c' => ?_⟩
  · rw [slabCaches_setCache, slabCaches_pushNode]
    rcases eq_or_ne c' c with rfl | hne
    · simp
    · simp [update_of_ne hne]
  all_goals
    rw [slabCaches_setCache, slabCaches_pushNode, Function.update_idem]
    rcases eq_or_ne c' c with rfl | hne
  · have hpages := h.pages c'
    simp only [update_self, hnext, List.length_cons]
    omega
  · simp only [update_of_ne hne]
    exact h.pages c'
  · rw [update_self]
    exact hnext
  · have hu := (hlive (some c')).length_eq
    have hother : slabUnit x.2 ≠ some c' := by
      rw [hunit]
      exact fun heq => hne (Option.some.inj heq).symm
    rw [if_neg hother] at hu
    rw [update_of_ne hne, h.inUse c', hu]
  · simp only [update_self]
    rw [← h.counters c', BitVec.sub_sub]
  · rw [update_of_ne hne]
    exact h.counters c'

section

variable (hfree : ¬ s.paging.memoryBitmap.Used page)
include hfree

lemma owner_eq_none : owner page = none := by
  cases howner : owner page with
  | none => rfl
  | some u => exact absurd (h.used page u howner).1 hfree

lemma le_of_free : firstUserPage ≤ page :=
  not_lt.1 fun hlt => hfree (h.low page hlt)

omit hfree in
lemma used_take (hpage : page < pageCount) (hfree : ¬ s.paging.memoryBitmap.Used page)
    (u : SlabUnit) :
    (∀ q < firstUserPage, (pmmSetPage s.paging.memoryBitmap (page * pageSize)).Used q) ∧
      ∀ q v, update owner page (some u) q = some v →
        (pmmSetPage s.paging.memoryBitmap (page * pageSize)).Used q ∧ firstUserPage ≤ q := by
  refine ⟨fun q hq => (used_pmmSetPage _ hpage q).2 (Or.inr (h.low q hq)), fun q v hq => ?_⟩
  rcases eq_or_ne q page with rfl | hne
  · exact ⟨(used_pmmSetPage _ hpage q).2 (Or.inl rfl), h.le_of_free hfree⟩
  · rw [update_of_ne hne] at hq
    obtain ⟨hused, hle⟩ := h.used q v hq
    exact ⟨(used_pmmSetPage _ hpage q).2 (Or.inr hused), hle⟩

lemma page_ne {u : SlabUnit} (ha : a ∈ nodesIn nodes u ++ liveIn live u) : pageNo a ≠ page := by
  rintro rfl
  have hplaced := (h.placed u a ha).1
  rw [h.owner_eq_none hfree] at hplaced
  cases hplaced

omit hfree in
lemma toNat_pages_succ (c : SlabClass) :
    ((s.slabCaches c).pages + 1).toNat = (s.slabCaches c).pages.toNat + 1 := by
  have hcount := h.pages c
  have hall := h.length_le (some c)
  rw [List.length_append, ← h.inUse c, Nat.add_comm] at hall
  change (s.slabCaches c).inUse.toNat + (nodes c).length ≤ _ at hall
  rw [← hcount] at hall
  have hmul := (Nat.mul_le_mul_left (s.slabCaches c).pages.toNat c.blocks_of_page).trans hall
  unfold pageCount pageSize at hmul
  change (_ + 1) % _ = _
  omega

lemma addBlocks {v : SlabUnit} {blocks : List (BitVec 32)} (hdistinct : blocks.Nodup)
    (hmem : ∀ a ∈ blocks, pageNo a = page ∧ a.toNat % v.size = 0) (u : SlabUnit) :
    ((if u = v then blocks else []) ++ (nodesIn nodes u ++ liveIn live u)).Nodup ∧
      ∀ a ∈ (if u = v then blocks else []) ++ (nodesIn nodes u ++ liveIn live u),
        update owner page (some v) (pageNo a) = some u ∧ a.toNat % u.size = 0 := by
  constructor
  · refine List.Nodup.append ?_ (h.nodup u) fun a ha hb => ?_
    · split_ifs
      · exact hdistinct
      · exact List.nodup_nil
    · split_ifs at ha
      · exact h.page_ne hfree hb (hmem a ha).1
      · cases ha
  · intro a ha
    rcases List.mem_append.1 ha with hnew | hold
    · split_ifs at hnew with hu
      · obtain ⟨hpageNo, hmod⟩ := hmem a hnew
        rw [hpageNo, update_self, hu]
        exact ⟨rfl, hmod⟩
      · cases hnew
    · obtain ⟨howner, hmod⟩ := h.placed u a hold
      rw [update_of_ne (h.page_ne hfree hold)]
      exact ⟨howner, hmod⟩

end

lemma growThreaded (hpage : page < pageCount) (hfree : ¬ s.paging.memoryBitmap.Used page)
    (c : SlabClass) {start : SlabState} (hstart : start.Threaded nodes) :
    SlabState.Threaded ((pageBlocks c (pageAddress page)).foldl (SlabState.pushNode c) start)
      (update nodes c ((pageBlocks c (pageAddress page)).reverse ++ nodes c)) := by
  have hlow := h.le_of_free hfree
  have hmem : ∀ a ∈ pageBlocks c (pageAddress page), pageNo a = page ∧ a.toNat % c.objSize = 0 :=
    fun a ha => mem_pageBlocks hpage ha
  have haligned : ∀ a ∈ pageBlocks c (pageAddress page), a.toNat % 4 = 0 := fun a ha =>
    SlabUnit.mod_four (u := some c) (hmem a ha).2
  have hzeros : ∀ a ∈ pageBlocks c (pageAddress page), a ≠ 0 := by
    rintro a ha rfl
    have hpage0 : pageNo 0 = page := (hmem 0 ha).1
    exact absurd (hpage0 ▸ hlow) (by decide)
  refine hstart.pushAll hzeros (fun a ha c' n hn => ?_) ?_
  · have hn' : n ∈ nodesIn nodes (some c') ++ liveIn live (some c') := List.mem_append_left _ hn
    refine word_ne_of_ne (SlabUnit.mod_four (u := some c') (h.placed_node hn).2) (haligned a ha) ?_
    rintro rfl
    exact h.page_ne hfree hn' (hmem n ha).1
  · exact (nodup_pageBlocks hpage).imp_of_mem fun ha hb hne =>
      word_ne_of_ne (haligned _ ha) (haligned _ hb) hne

/-- A class grows by a page that was free. -/
lemma grow (hpage : page < pageCount) (hfree : ¬ s.paging.memoryBitmap.Used page)
    (halloc : s.paging.allocPage =
      ({ s.paging with memoryBitmap := pmmSetPage s.paging.memoryBitmap (page * pageSize) },
        pageAddress page)) (c : SlabClass) :
    (slabGrowCache s c).2 = true ∧ ((slabGrowCache s c).1.slabCaches c).freeList ≠ 0 ∧
      (slabGrowCache s c).1.Layout live (update owner page (some (some c)))
        (update nodes c ((pageBlocks c (pageAddress page)).reverse ++ nodes c)) := by
  have hzero : pageAddress page ≠ 0 := by
    refine pageAddress_ne_zero hpage ?_
    rintro rfl
    exact absurd (h.le_of_free hfree) (by decide)
  have hfour : ¬ c.objSize < 4 := by
    rcases c.objSize_cases with hc | hc | hc | hc <;> rw [hc] <;> decide
  let start : SlabState := SlabState.setCache { s with paging := s.paging.allocPage.1 } c
    { s.slabCaches c with pages := (s.slabCaches c).pages + 1 }
  have hstart : start.Threaded nodes := by
    refine h.threaded.congr (by simp [start, halloc]) fun c' => ?_
    rcases eq_or_ne c' c with rfl | hne
    · simp [start]
    · simp [start, update_of_ne hne]
  have hthread := h.growThreaded hpage hfree c hstart
  have hlength := length_pageBlocks c (pageAddress page)
  have hadd := h.addBlocks (v := some c) hfree
    (List.nodup_reverse.2 (nodup_pageBlocks (c := c) hpage))
    fun a ha => mem_pageBlocks hpage (List.mem_reverse.1 ha)
  generalize hgrown : slabGrowCache s c = g
  generalize hblocks : pageBlocks c (pageAddress page) = blocks at hthread hlength hadd ⊢
  obtain ⟨hbitmap, head, hcaches⟩ := foldl_pushNode (c := c) blocks start
  have hg : g = (blocks.foldl (SlabState.pushNode c) start, true) := by
    rw [← hgrown]
    simp only [slabGrowCache, if_neg hfour, halloc, if_neg hzero, hblocks, start]
  have hbits : (blocks.foldl (SlabState.pushNode c) start).paging.memoryBitmap =
      pmmSetPage s.paging.memoryBitmap (page * pageSize) := by
    rw [hbitmap]
    simp only [start, paging_setCache, halloc]
  have hin : ∀ u, nodesIn (update nodes c (blocks.reverse ++ nodes c)) u ++
      liveIn live u =
      (if u = some c then blocks.reverse else []) ++ (nodesIn nodes u ++ liveIn live u) := by
    intro u
    rw [nodesIn_update_append, List.append_assoc]
  obtain ⟨hlow', hused'⟩ := h.used_take hpage hfree (some c)
  have hpages := h.toNat_pages_succ c
  have hper := c.blocks_of_page
  rw [hg]
  refine ⟨rfl, fun hnull => ?_, fun q hq => hbits ▸ hlow' q hq, fun q v hq => hbits ▸ hused' q v hq,
    hthread, fun u => hin u ▸ (hadd u).1, fun u a ha => (hadd u).2 a (hin u ▸ ha), fun c' => ?_,
    fun c' => ?_, fun c' => ?_⟩
  · have hlist := hthread c
    rw [hnull, update_self] at hlist
    have hnil := congrArg List.length hlist.eq_nil
    rw [List.length_append, List.length_reverse, hlength, List.length_nil] at hnil
    omega
  all_goals
    rw [hcaches]
    simp only [start, slabCaches_setCache]
    rcases eq_or_ne c' c with rfl | hne
  · have hcount := h.pages c'
    simp only [update_self, hpages, List.length_append, List.length_reverse, hlength,
      Nat.add_mul, hcount]
    omega
  · simp only [update_of_ne hne]
    exact h.pages c'
  · simp only [update_self]
    exact h.inUse c'
  · simp only [update_of_ne hne]
    exact h.inUse c'
  · simp only [update_self]
    exact h.counters c'
  · simp only [update_of_ne hne]
    exact h.counters c'

omit h in
lemma memory_congr (h : s.Threaded nodes) {paging : Paging}
    (hmem : paging.memory = s.paging.memory) :
    SlabState.Threaded { s with paging := paging } nodes := h.congr hmem fun _ => rfl

omit h in
lemma liveIn_whole {size : Nat} (hunit : slabUnit size = none) (addr : BitVec 32) (c : SlabClass) :
    liveIn ((addr, size) :: live) (some c) = liveIn live (some c) := by
  rw [liveIn_cons, if_neg (by simp [hunit])]

/-- A whole page is handed out. -/
lemma takePage {size : Nat} (hpage : page < pageCount) (hfree : ¬ s.paging.memoryBitmap.Used page)
    (hunit : slabUnit size = none) :
    SlabState.Layout
      { s with
        paging :=
          { s.paging with memoryBitmap := pmmSetPage s.paging.memoryBitmap (page * pageSize) } }
      ((pageAddress page, size) :: live) (update owner page (some none)) nodes := by
  obtain ⟨hlow, hused⟩ := h.used_take hpage hfree none
  have haddr := toNat_pageAddress hpage
  have hpageNo : pageNo (pageAddress page) = page := by
    rw [pageNo, haddr, Nat.mul_div_cancel _ (by decide)]
  have hin : ∀ u, nodesIn nodes u ++ liveIn ((pageAddress page, size) :: live) u =
      nodesIn nodes u ++ ((if u = none then [pageAddress page] else []) ++ liveIn live u) := by
    intro u
    rw [liveIn_cons, hunit]
    cases u <;> simp
  have hperm : ∀ u, (nodesIn nodes u ++ liveIn ((pageAddress page, size) :: live) u).Perm
      ((if u = none then [pageAddress page] else []) ++ (nodesIn nodes u ++ liveIn live u)) := by
    intro u
    rw [hin, ← List.append_assoc, ← List.append_assoc]
    exact List.perm_append_comm.append_right _
  have hadd := h.addBlocks (v := none) hfree (List.nodup_singleton (pageAddress page))
    (by
      intro a ha
      rw [List.mem_singleton] at ha
      rw [ha, haddr]
      exact ⟨hpageNo, Nat.mul_mod_left _ _⟩)
  refine ⟨hlow, hused, memory_congr h.threaded rfl, fun u => (hperm u).nodup_iff.2 (hadd u).1,
    fun u a ha => (hadd u).2 a ((hperm u).mem_iff.1 ha), h.pages, fun c => ?_, h.counters⟩
  · rw [liveIn_whole hunit]
    exact h.inUse c

/-- A whole page is given back. -/
lemma givePage (hx : x ∈ live) (hunit : slabUnit x.2 = none) :
    SlabState.Layout { s with paging := s.paging.freePage x.1 } (live.erase x)
      (update owner (pageNo x.1) none) nodes := by
  obtain ⟨howner, hmod⟩ := h.placed_live hx
  rw [hunit] at howner hmod
  obtain ⟨hused, hlow⟩ := h.used _ _ howner
  have haddr : x.1.toNat = pageNo x.1 * pageSize := by
    change x.1.toNat % pageSize = 0 at hmod
    rw [pageNo]
    unfold pageSize at hmod ⊢
    omega
  have hbits : ∀ q, (s.paging.freePage x.1).memoryBitmap.Used q ↔
      q ≠ pageNo x.1 ∧ s.paging.memoryBitmap.Used q := by
    intro q
    change (pmmFreePage s.paging.memoryBitmap x.1.toNat).Used q ↔ _
    rw [haddr]
    exact used_pmmFreePage _ (Nat.mul_le_mul_right pageSize hlow) hused.lt q
  have hlive := liveIn_erase hx
  have hold : ∀ u, (nodesIn nodes u ++ liveIn (live.erase x) u).Sublist
      (nodesIn nodes u ++ liveIn live u) := fun u =>
    (List.Sublist.refl _).append (liveIn_erase_sublist x live u)
  -- the page has no other block
  have hother : ∀ u, ∀ a ∈ nodesIn nodes u ++ liveIn (live.erase x) u, pageNo a ≠ pageNo x.1 := by
    intro u a ha heq
    obtain ⟨howner', hmod'⟩ := h.placed u a ((hold u).subset ha)
    rw [heq, howner] at howner'
    obtain rfl : none = u := Option.some.inj howner'
    have hsame : a = x.1 := by
      apply BitVec.eq_of_toNat_eq
      change a.toNat % pageSize = 0 at hmod'
      rw [pageNo, pageNo] at heq
      unfold pageSize at heq haddr hmod'
      omega
    have hnodup := ((hlive none).nodup_iff.1 (by simpa [nodesIn] using h.nodup none))
    rw [if_pos hunit, List.nodup_cons] at hnodup
    exact hnodup.1 (hsame ▸ (by simpa [nodesIn] using ha))
  refine ⟨fun q hq => (hbits q).2 ⟨fun heq => ?_, h.low q hq⟩, fun q v hq => ?_,
    memory_congr h.threaded rfl, fun u => (h.nodup u).sublist (hold u), fun u a ha => ?_, h.pages,
    fun c => ?_, h.counters⟩
  · rw [heq] at hq
    exact absurd hlow (not_le.2 hq)
  · rcases eq_or_ne q (pageNo x.1) with rfl | hne
    · rw [update_self] at hq
      cases hq
    · rw [update_of_ne hne] at hq
      obtain ⟨husedq, hlowq⟩ := h.used q v hq
      exact ⟨(hbits q).2 ⟨hne, husedq⟩, hlowq⟩
  · obtain ⟨howner', hmod'⟩ := h.placed u a ((hold u).subset ha)
    rw [update_of_ne (hother u a ha)]
    exact ⟨howner', hmod'⟩
  · have hu := (hlive (some c)).length_eq
    rw [if_neg (by simp [hunit])] at hu
    exact (h.inUse c).trans hu

lemma store (hx : x ∈ live) {addr : BitVec 32} (haddr : InBlock (slabUnit x.2) x.1 addr.toNat)
    (v : BitVec 32) :
    SlabState.Layout { s with paging := s.paging.storeWord addr v } live owner nodes where
  low := h.low
  used := h.used
  threaded := h.threaded.storeWord fun _ _ hn => h.word_ne (mem_liveIn hx) haddr hn
  nodup := h.nodup
  placed := h.placed
  pages := h.pages
  inUse := h.inUse
  counters := h.counters

end SlabState.Layout

/-! ### Runs -/

/-- The calls, and the stores of the owners of live blocks. -/
inductive SlabCall
  | alloc (size : Nat)
  | free (ptr : BitVec 32) (size : Nat)
  | store (addr v : BitVec 32)

structure SlabRun where
  state : SlabState
  live : List LiveBlock

def SlabRun.start (paging : Paging) : SlabRun := ⟨⟨paging, fun _ => ⟨0, 0, 0, 0, 0⟩⟩, []⟩

def SlabRun.step (r : SlabRun) : SlabCall → SlabRun × BitVec 32
  | .alloc size =>
    let a := slabAlloc r.state size
    (⟨a.1, if a.2 = 0 then r.live else (a.2, size) :: r.live⟩, a.2)
  | .free ptr size => (⟨(slabFree r.state ptr size).1, r.live.erase (ptr, size)⟩, 0)
  | .store addr v => (⟨{ r.state with paging := r.state.paging.storeWord addr v }, r.live⟩, 0)

/-- Sizes are in range, what is freed is live and was allocated with that size, and stores go to
live blocks. -/
def SlabUse (r : SlabRun) : SlabCall → Prop
  | .alloc size => 1 ≤ size ∧ size ≤ pageSize
  | .free ptr size => (ptr, size) ∈ r.live
  | .store addr _ => ∃ x ∈ r.live, InBlock (slabUnit x.2) x.1 addr.toNat

instance : ∀ r c, Decidable (SlabUse r c)
  | _, .alloc _ => inferInstanceAs (Decidable (_ ∧ _))
  | r, .free ptr size => inferInstanceAs (Decidable ((ptr, size) ∈ r.live))
  | r, .store _ _ => inferInstanceAs (Decidable (∃ x ∈ r.live, InBlock _ _ _))

/-- What is handed out fits together with what is free. -/
structure SlabRun.Sound (r : SlabRun) : Prop where
  layout : ∃ owner nodes, r.state.Layout r.live owner nodes
  sizes : ∀ x ∈ r.live, x.2 ≤ pageSize
  distinct : (r.live.map Prod.fst).Nodup

lemma sound_start {paging : Paging} (hlow : ∀ page < firstUserPage, paging.memoryBitmap.Used page) :
    (SlabRun.start paging).Sound where
  layout := by
    refine ⟨fun _ => none, fun _ => [], hlow, fun _ _ h => (nomatch h), fun _ => rfl, fun u => ?_,
      fun u a ha => ?_, fun _ => ?_, fun _ => rfl, fun _ => ?_⟩
    · cases u <;> exact List.nodup_nil
    · cases u <;> cases ha
    · simp [SlabRun.start]
    · simp [SlabRun.start]
  sizes x hx := by cases hx
  distinct := List.nodup_nil

lemma SlabState.Layout.not_live {x : LiveBlock} (h : s.Layout (x :: live) owner nodes) :
    x.1 ∉ live.map Prod.fst := by
  intro hmem
  obtain ⟨y, hy, heq⟩ := List.mem_map.1 hmem
  have hx := h.placed_live (List.mem_cons_self : x ∈ x :: live)
  have hy' := h.placed_live (List.mem_cons_of_mem x hy)
  have hunit : slabUnit x.2 = slabUnit y.2 := by
    rw [← heq, hy'.1] at hx
    exact (Option.some.inj hx.1).symm
  have hnodup := (List.nodup_append.1 (h.nodup (slabUnit x.2))).2.1
  rw [liveIn_cons, if_pos rfl, List.nodup_cons] at hnodup
  refine hnodup.1 ?_
  rw [hunit, ← heq]
  exact mem_liveIn hy

lemma slabAlloc_whole {size : Nat} (hunit : slabUnit size = none) (s : SlabState) :
    slabAlloc s size = ({ s with paging := s.paging.allocPage.1 }, s.paging.allocPage.2) := by
  have hpick : slabPickCache size = none := hunit
  simp only [slabAlloc, hpick]

/-- An allocation fails and changes nothing, or hands out a block. -/
lemma SlabState.Layout.alloc (h : s.Layout live owner nodes) (size : Nat) :
    slabAlloc s size = (s, 0) ∨ (slabAlloc s size).2 ≠ 0 ∧
      ∃ owner' nodes', (slabAlloc s size).1.Layout (((slabAlloc s size).2, size) :: live) owner'
        nodes' := by
  cases hunit : slabUnit size with
  | none =>
    rw [slabAlloc_whole hunit]
    rcases s.paging.allocPage_cases with hnone | ⟨page, hpage, hfree, halloc⟩
    · exact Or.inl (by rw [hnone])
    · have hlow := h.le_of_free hfree
      have hzero : pageAddress page ≠ 0 := by
        refine pageAddress_ne_zero hpage ?_
        rintro rfl
        exact absurd hlow (by decide)
      rw [halloc]
      exact Or.inr ⟨hzero, _, _, h.takePage hpage hfree hunit⟩
  | some c =>
    have hpick : slabPickCache size = some c := hunit
    by_cases hnull : (s.slabCaches c).freeList = 0
    · rcases s.paging.allocPage_cases with hnone | ⟨page, hpage, hfree, halloc⟩
      · have hfour : ¬ c.objSize < 4 := by
          rcases c.objSize_cases with hc | hc | hc | hc <;> rw [hc] <;> decide
        simp [slabAlloc, hpick, hnull, slabGrowCache, hfour, hnone]
      · right
        obtain ⟨hok, hhead, hgrown⟩ := h.grow hpage hfree halloc c
        obtain ⟨nodes', htaken⟩ := hgrown.take hunit hhead
        simp only [slabAlloc, hpick, if_pos hnull, hok]
        exact ⟨hhead, _, nodes', htaken⟩
    · right
      obtain ⟨nodes', htaken⟩ := h.take hunit hnull
      simp only [slabAlloc, hpick, if_neg hnull]
      exact ⟨hnull, _, nodes', htaken⟩

lemma SlabRun.Sound.step {r : SlabRun} (h : r.Sound) {call : SlabCall} (hcall : SlabUse r call) :
    (r.step call).1.Sound := by
  obtain ⟨owner, nodes, hlayout⟩ := h.layout
  cases call with
  | alloc size =>
    rcases hlayout.alloc size with hnone | ⟨hne, howner, hnodes, hnew⟩
    · simp only [SlabRun.step, hnone, if_true]
      exact h
    · simp only [SlabRun.step, if_neg hne]
      refine ⟨⟨_, _, hnew⟩, fun x hx => ?_, List.nodup_cons.2 ⟨hnew.not_live, h.distinct⟩⟩
      rcases List.mem_cons.1 hx with rfl | hx
      · exact hcall.2
      · exact h.sizes x hx
  | free ptr size =>
    have hx : (ptr, size) ∈ r.live := hcall
    refine ⟨?_, fun x hx => h.sizes x (List.mem_of_mem_erase hx),
      h.distinct.sublist (List.erase_sublist.map _)⟩
    cases hunit : slabUnit size with
    | none =>
      have hzero := hlayout.ne_zero (List.mem_append_right _ (mem_liveIn hx))
      have hpick : slabPickCache size = none := hunit
      simp only [SlabRun.step, slabFree, if_neg hzero, hpick]
      exact ⟨_, _, hlayout.givePage hx hunit⟩
    | some c => exact ⟨_, _, hlayout.give hx hunit⟩
  | store addr v =>
    obtain ⟨x, hx, haddr⟩ := hcall
    exact ⟨⟨_, _, hlayout.store hx haddr v⟩, h.sizes, h.distinct⟩

lemma SlabState.Layout.live_disjoint (h : s.Layout live owner nodes)
    (hdistinct : (live.map Prod.fst).Nodup) :
    live.Pairwise fun x y =>
      ∀ n, InBlock (slabUnit x.2) x.1 n → ¬ InBlock (slabUnit y.2) y.1 n := by
  refine (List.pairwise_map.1 hdistinct).imp_of_mem fun hx hy hne n hnx hny => hne ?_
  exact (h.eq_of_shared (List.mem_append_right _ (mem_liveIn hx))
    (List.mem_append_right _ (mem_liveIn hy)) hnx hny).2

lemma SlabState.Layout.live_free_disjoint (h : s.Layout live owner nodes) (hx : x ∈ live)
    (ha : a ∈ nodes c) (n : Nat) (hn : InBlock (slabUnit x.2) x.1 n) : ¬ InBlock (some c) a n := by
  intro hna
  have hnode : a ∈ nodesIn nodes (some c) ++ liveIn live (some c) := List.mem_append_left _ ha
  have hshared := h.eq_of_shared (List.mem_append_right _ (mem_liveIn hx)) hnode hn hna
  exact h.node_not_live ha hx hshared.2.symm

/-- Whatever is allocated, freed and stored: live blocks are apart and as large as asked for, in
pages that are in use; the free blocks of each class are linked, and apart from the live ones; every
block of a class is free or in use. -/
theorem slab_runs_safe (paging : Paging)
    (hlow : ∀ page < firstUserPage, paging.memoryBitmap.Used page) (calls : List SlabCall)
    (huse : Machine.Runs SlabUse SlabRun.step (SlabRun.start paging) calls) :
    let r := Machine.run SlabRun.step (SlabRun.start paging) calls
    (∀ x ∈ r.live, x.2 ≤ (slabUnit x.2).size ∧ r.state.paging.memoryBitmap.Used (pageNo x.1)) ∧
      (r.live.Pairwise fun x y =>
        ∀ n, InBlock (slabUnit x.2) x.1 n → ¬ InBlock (slabUnit y.2) y.1 n) ∧
      ∀ c, ∃ nodes,
        Linked.IsList r.state.paging.word 0 (r.state.slabCaches c).freeList nodes ∧
        (∀ x ∈ r.live, ∀ a ∈ nodes, ∀ n, InBlock (slabUnit x.2) x.1 n → ¬ InBlock (some c) a n) ∧
        (r.state.slabCaches c).pages.toNat * (pageSize / c.objSize) =
          (r.state.slabCaches c).inUse.toNat + nodes.length ∧
        (r.state.slabCaches c).allocs - (r.state.slabCaches c).frees =
          (r.state.slabCaches c).inUse := by
  intro r
  have h : r.Sound := Machine.run_invariant (fun _ _ h hc => h.step hc) (sound_start hlow) huse
  obtain ⟨owner, nodes, hlayout⟩ := h.layout
  refine ⟨fun x hx => ⟨le_size_slabUnit (h.sizes x hx), ?_⟩, hlayout.live_disjoint h.distinct,
    fun c => ⟨nodes c, hlayout.threaded c, fun x hx a ha => hlayout.live_free_disjoint hx ha,
      hlayout.pages c, hlayout.counters c⟩⟩
  exact (hlayout.used _ _ (hlayout.placed_live hx).1).1

/-- A block of 64 bytes behind a kernel of one megabyte is handed out, written and given back. -/
theorem slab_runs_safe_one :
    (Machine.run SlabRun.step (SlabRun.start ⟨initPmmTo 0x100000, fun _ _ => 0⟩)
      [.alloc 40, .store 0x100FC4 7, .free 0x100FC0 40]).live.Pairwise fun x y =>
        ∀ n, InBlock (slabUnit x.2) x.1 n → ¬ InBlock (slabUnit y.2) y.1 n := by
  have huse : Machine.Runs SlabUse SlabRun.step (SlabRun.start ⟨initPmmTo 0x100000, fun _ _ => 0⟩)
      [.alloc 40, .store 0x100FC4 7, .free 0x100FC0 40] := by
    rw [initPmmTo_megabyte]
    decide +kernel
  have hlow : ∀ page < firstUserPage,
      (Paging.mk (initPmmTo 0x100000) fun _ _ => 0).memoryBitmap.Used page := by
    intro page hpage
    simp only [used_initPmmTo (show 0x100000 ≤ 0x2000000 by decide)]
    unfold firstUserPage pageSize at hpage
    unfold pageSize
    omega
  exact (slab_runs_safe _ hlow _ huse).2.1

end NeuroSpark
