import Mathlib.Data.Finset.Card
import Mathlib.Data.Fintype.Card
import NeuroSpark.Net.Receive

/-!
# The slots for reassembly as a map

As long as fragments of at most four datagrams arrive, no slot is taken from a datagram: the four
slots are a map from the keys of datagrams to what has arrived of them. A fragment changes the entry
of its own datagram only.
-/

namespace NeuroSpark

open Function (update update_self update_of_ne)

namespace Ipv4Reass

/-- The slots in use are for different datagrams. -/
def Unique (r : Ipv4Reass) : Prop :=
  ∀ i j, (r i).used = true → (r j).used = true → (r i).key = (r j).key → i = j

/-- The slots in use are for different datagrams, all with keys in a set. -/
structure Within (r : Ipv4Reass) (keys : Finset Ipv4Key) : Prop where
  mem : ∀ i, (r i).used = true → (r i).key ∈ keys
  unique : r.Unique

/-- The slot of a datagram. -/
def get (r : Ipv4Reass) (key : Ipv4Key) : Option Ipv4ReassSlot :=
  ((List.finRange 4).find? fun i => (r i).used ∧ (r i).key = key).map r

section

variable {r : Ipv4Reass} {keys : Finset Ipv4Key} {key : Ipv4Key} {slot : Ipv4ReassSlot} {i : Fin 4}
  {tick : UInt32}

lemma get_eq_none : r.get key = none ↔ ∀ i, (r i).used = true → (r i).key ≠ key := by
  simp [get, List.find?_eq_none]

lemma Within.get_eq_some (h : r.Within keys) :
    r.get key = some slot ↔ ∃ i, (r i).used = true ∧ (r i).key = key ∧ r i = slot := by
  constructor
  · intro hget
    rw [get, Option.map_eq_some_iff] at hget
    obtain ⟨i, hi, rfl⟩ := hget
    have hmatch := List.find?_some hi
    simp only [decide_eq_true_eq] at hmatch
    exact ⟨i, hmatch.1, hmatch.2, rfl⟩
  · rintro ⟨i, hused, hkey, rfl⟩
    cases hget : r.get key with
    | none => exact absurd hkey (get_eq_none.1 hget i hused)
    | some slot' =>
      rw [get, Option.map_eq_some_iff] at hget
      obtain ⟨j, hj, rfl⟩ := hget
      have hmatch := List.find?_some hj
      simp only [decide_eq_true_eq] at hmatch
      rw [h.unique j i hmatch.1 hused (hmatch.2.trans hkey.symm)]

lemma within_empty (h : ∀ i, (r i).used = false) (keys : Finset Ipv4Key) : r.Within keys := by
  refine ⟨fun i hi => ?_, fun i _ hi => ?_⟩ <;> simp [h i] at hi

lemma Within.mono {keys' : Finset Ipv4Key} (h : r.Within keys) (hsub : keys ⊆ keys') :
    r.Within keys' := ⟨fun i hi => hsub (h.mem i hi), h.unique⟩

lemma gc_used (h : (ipv4ReassemblyGc tick r i).used = true) :
    ipv4ReassemblyGc tick r i = r i ∧ (r i).used = true ∧
      (tick - (r i).lastTick).toNat ≤ ipv4ReassTimeoutTicks := by
  unfold ipv4ReassemblyGc at h ⊢
  split_ifs at h ⊢ with hold
  refine ⟨rfl, h, ?_⟩
  by_contra hlate
  exact hold ⟨h, Nat.lt_of_not_le hlate⟩

lemma gc_of_recent (h : (tick - (r i).lastTick).toNat ≤ ipv4ReassTimeoutTicks) :
    ipv4ReassemblyGc tick r i = r i := by
  unfold ipv4ReassemblyGc
  rw [if_neg fun hold => absurd hold.2 (Nat.not_lt.2 h)]

lemma Unique.gc (h : r.Unique) (tick : UInt32) : (ipv4ReassemblyGc tick r).Unique := by
  intro i j hi hj hkey
  obtain ⟨hsame, hused, -⟩ := gc_used hi
  obtain ⟨hsame', hused', -⟩ := gc_used hj
  rw [hsame, hsame'] at hkey
  exact h i j hused hused' hkey

lemma Within.gc (h : r.Within keys) (tick : UInt32) : (ipv4ReassemblyGc tick r).Within keys := by
  refine ⟨fun i hi => ?_, h.unique.gc tick⟩
  obtain ⟨hsame, hused, -⟩ := gc_used hi
  rw [hsame]
  exact h.mem i hused

lemma Within.get_gc_of_recent (h : r.Within keys) (hslot : r.get key = some slot)
    (hrecent : (tick - slot.lastTick).toNat ≤ ipv4ReassTimeoutTicks) :
    (ipv4ReassemblyGc tick r).get key = some slot := by
  obtain ⟨i, hused, hkey, rfl⟩ := h.get_eq_some.1 hslot
  have hsame := gc_of_recent hrecent
  exact (h.gc tick).get_eq_some.2 ⟨i, by rw [hsame, hused], by rw [hsame, hkey], hsame⟩

lemma get_gc_of_none (h : r.get key = none) : (ipv4ReassemblyGc tick r).get key = none := by
  rw [get_eq_none] at h ⊢
  intro i hi
  obtain ⟨hsame, hused, -⟩ := gc_used hi
  rw [hsame]
  exact h i hused

lemma findSlot_of_match (hused : (r i).used = true) (hkey : (r i).key = key)
    (hunique : ∀ j, (r j).used = true → (r j).key = key → j = i) {l : List (Fin 4)} (hi : i ∈ l)
    (free : Option (Fin 4)) (tick : UInt32) (oldest : Option (Fin 4)) :
    reassFindSlot r key l free tick oldest = i := by
  induction l generalizing free tick oldest with
  | nil => cases hi
  | cons j l ih =>
    have hrest : j ≠ i → i ∈ l := fun hne => (List.mem_cons.1 hi).resolve_left (Ne.symm hne)
    unfold reassFindSlot
    split_ifs with hfree hmatch hold
    · exact ih (hrest fun heq => by simp [heq, hused] at hfree) ..
    · exact hunique j (by simpa using hfree) hmatch
    · exact ih (hrest fun heq => hmatch (heq ▸ hkey)) ..
    · exact ih (hrest fun heq => hmatch (heq ▸ hkey)) ..

lemma Unique.findSlot (h : r.Unique) (key : Ipv4Key) {j : Fin 4}
    (hj : j ≠ reassFindSlot r key (List.finRange 4) none 0xFFFFFFFF none)
    (hused : (r j).used = true) : (r j).key ≠ key := by
  intro hkey
  refine hj (findSlot_of_match hused hkey (fun j' hj' hkey' => ?_)
    (List.mem_finRange j) none _ none).symm
  exact h j' j hj' hused (hkey'.trans hkey.symm)

lemma Unique.update (h : r.Unique) {slot : Ipv4ReassSlot}
    (hother : ∀ j ≠ i, (r j).used = true → (r j).key ≠ slot.key) :
    Unique (update r i slot) := by
  have hself : Function.update r i slot i = slot := update_self ..
  intro j j' hj hj' hsame
  by_cases hji : j = i <;> by_cases hji' : j' = i
  · rw [hji, hji']
  · rw [hji, hself, update_of_ne hji'] at hsame
    rw [update_of_ne hji'] at hj'
    exact absurd hsame.symm (hother j' hji' hj')
  · rw [update_of_ne hji, hji', hself] at hsame
    rw [update_of_ne hji] at hj
    exact absurd hsame (hother j hji hj)
  · rw [update_of_ne hji] at hj hsame
    rw [update_of_ne hji'] at hj' hsame
    exact h j j' hj hj' hsame

lemma findSlot_of_free (hno : ∀ i, (r i).used = true → (r i).key ≠ key) {l : List (Fin 4)}
    {free : Option (Fin 4)} (hfree : ∀ i ∈ free, (r i).used = false)
    (hsome : free ≠ none ∨ ∃ i ∈ l, (r i).used = false) (tick : UInt32) (oldest : Option (Fin 4)) :
    (r (reassFindSlot r key l free tick oldest)).used = false := by
  induction l generalizing free tick oldest with
  | nil =>
    have hne : free ≠ none := by simpa using hsome
    obtain ⟨i, rfl⟩ := Option.ne_none_iff_exists'.1 hne
    exact hfree i rfl
  | cons j l ih =>
    unfold reassFindSlot
    have hstays : (r j).used = true → free ≠ none ∨ ∃ i ∈ l, (r i).used = false := by
      intro hj
      rcases hsome with hne | ⟨i, hi, hi'⟩
      · exact Or.inl hne
      · rcases List.mem_cons.1 hi with rfl | hmem
        · exact absurd (hi'.symm.trans hj) (by decide)
        · exact Or.inr ⟨i, hmem, hi'⟩
    split_ifs with hj hmatch hold
    · refine ih (fun i hi => ?_) (Or.inl ?_) ..
      · cases free with
        | none =>
          obtain rfl : j = i := by simpa using hi
          simpa using hj
        | some i' => exact hfree i (by simpa using hi)
      · cases free <;> simp
    · exact absurd hmatch (hno j (by simpa using hj))
    · exact ih hfree (hstays (by simpa using hj)) ..
    · exact ih hfree (hstays (by simpa using hj)) ..

lemma Within.exists_free (h : r.Within keys) (hcard : keys.card ≤ 4) (hkey : key ∈ keys)
    (hno : ∀ i, (r i).used = true → (r i).key ≠ key) : ∃ i, (r i).used = false := by
  by_contra hall
  simp only [not_exists, Bool.not_eq_false] at hall
  have hmaps : ∀ i ∈ (Finset.univ : Finset (Fin 4)), (r i).key ∈ keys.erase key := fun i _ =>
    Finset.mem_erase.2 ⟨hno i (hall i), h.mem i (hall i)⟩
  have hle := Finset.card_le_card_of_injOn (fun i => (r i).key) hmaps
    fun i _ j _ hij => h.unique i j (hall i) (hall j) hij
  rw [Finset.card_erase_of_mem hkey, Finset.card_univ, Fintype.card_fin] at hle
  omega

/-- A slot that holds the datagram `key`, or none, and no other slot holds it. -/
structure SlotFor (r : Ipv4Reass) (key : Ipv4Key) (i : Fin 4) : Prop where
  own : (r i).used = true → (r i).key = key
  other : ∀ j ≠ i, (r j).used = true → (r j).key ≠ key

lemma Within.findSlot (h : r.Within keys) (hcard : keys.card ≤ 4) (hkey : key ∈ keys) :
    r.SlotFor key (reassFindSlot r key (List.finRange 4) none 0xFFFFFFFF none) := by
  by_cases hmatch : ∃ i, (r i).used = true ∧ (r i).key = key
  · obtain ⟨i, hused, hi⟩ := hmatch
    have hunique : ∀ j, (r j).used = true → (r j).key = key → j = i :=
      fun j hj hj' => h.unique j i hj hused (hj'.trans hi.symm)
    rw [findSlot_of_match hused hi hunique (List.mem_finRange i)]
    exact ⟨fun _ => hi, fun j hne hj hj' => hne (hunique j hj hj')⟩
  · have hno : ∀ i, (r i).used = true → (r i).key ≠ key := fun i hi hi' => hmatch ⟨i, hi, hi'⟩
    obtain ⟨i, hi⟩ := h.exists_free hcard hkey hno
    have hfree : (r (reassFindSlot r key (List.finRange 4) none 0xFFFFFFFF none)).used = false :=
      findSlot_of_free hno (by simp) (Or.inr ⟨i, List.mem_finRange i, hi⟩) _ _
    exact ⟨fun hused => absurd (hfree.symm.trans hused) (by decide), fun j _ hj => hno j hj⟩

lemma SlotFor.within (hi : r.SlotFor key i) (h : r.Within keys) (hkey : key ∈ keys)
    (hslot : slot.key = key) : Within (update r i slot) keys := by
  refine ⟨fun j hj => ?_, h.unique.update fun j hj hused => hslot ▸ hi.other j hj hused⟩
  by_cases hji : j = i
  · rw [hji, update_self, hslot]
    exact hkey
  · rw [update_of_ne hji] at hj ⊢
    exact h.mem j hj

lemma SlotFor.get_update (hi : r.SlotFor key i) (h : r.Within keys) (hkey : key ∈ keys)
    (hslot : slot.key = key) :
    get (update r i slot) key = if slot.used then some slot else none := by
  have hself : update r i slot i = slot := update_self ..
  split_ifs with hused
  · exact (hi.within h hkey hslot).get_eq_some.2 ⟨i, by rw [hself, hused], by rw [hself, hslot], hself⟩
  · rw [get_eq_none]
    intro j hj
    by_cases hji : j = i
    · rw [hji, hself] at hj
      exact absurd hj hused
    · rw [update_of_ne hji] at hj ⊢
      exact hi.other j hji hj

lemma SlotFor.get_update_of_ne (hi : r.SlotFor key i) (h : r.Within keys) (hkey : key ∈ keys)
    (hslot : slot.key = key) {key' : Ipv4Key} (hne : key' ≠ key) :
    get (update r i slot) key' = r.get key' := by
  have hself : update r i slot i = slot := update_self ..
  apply Option.ext
  intro slot'
  rw [(hi.within h hkey hslot).get_eq_some, h.get_eq_some]
  constructor
  · rintro ⟨j, hj, hj', rfl⟩
    by_cases hji : j = i
    · rw [hji, hself, hslot] at hj'
      exact absurd hj'.symm hne
    · rw [update_of_ne hji] at hj hj' ⊢
      exact ⟨j, hj, hj', rfl⟩
  · rintro ⟨j, hj, hj', rfl⟩
    have hji : j ≠ i := by
      rintro rfl
      exact hne (hj'.symm.trans (hi.own hj))
    exact ⟨j, by rwa [update_of_ne hji], by rwa [update_of_ne hji],
      update_of_ne hji ..⟩

end

end Ipv4Reass

/-- A slot that was cleared for the datagram of a fragment. -/
structure Ipv4ReassSlot.Fresh (slot : Ipv4ReassSlot) (f : Ipv4Fragment) : Prop where
  used : slot.used = true
  key : slot.key = f.key
  haveFirst : slot.haveFirst = false
  totalKnown : slot.totalKnown = false
  present : ∀ block, ipv4ReassPresentGet slot block = false

section

variable {slot : Ipv4ReassSlot} {f : Ipv4Fragment} {tick : UInt32}

lemma foldl_presentSet (blocks : List Nat) (slot : Ipv4ReassSlot) :
    blocks.foldl ipv4ReassPresentSet slot =
      { slot with present := fun b => slot.present b || decide ((b : Nat) ∈ blocks) } := by
  induction blocks generalizing slot with
  | nil => simp
  | cons block blocks ih =>
    rw [List.foldl_cons, ih]
    unfold ipv4ReassPresentSet
    split_ifs with hlt
    · congr 1
      funext b
      by_cases hb : b = ⟨block, hlt⟩
      · simp [hb]
      · have hne : (b : Nat) ≠ block := fun h => hb (Fin.ext h)
        simp [update_of_ne hb, hne]
    · congr 1
      funext b
      have hne : (b : Nat) ≠ block := by
        omega
      simp [hne]

@[simp] lemma store_used : (slot.store tick f).used = slot.used := by
  unfold Ipv4ReassSlot.store
  split_ifs <;> simp [foldl_presentSet]

@[simp] lemma store_key : (slot.store tick f).key = slot.key := by
  unfold Ipv4ReassSlot.store Ipv4ReassSlot.key
  split_ifs <;> simp [foldl_presentSet]

@[simp] lemma store_lastTick : (slot.store tick f).lastTick = tick := by
  unfold Ipv4ReassSlot.store
  split_ifs <;> simp [foldl_presentSet]

lemma store_haveFirst :
    (slot.store tick f).haveFirst = (decide (f.fragOffset = 0) || slot.haveFirst) := by
  unfold Ipv4ReassSlot.store
  split_ifs <;> simp_all [foldl_presentSet]

lemma store_header :
    (slot.store tick f).header = if f.fragOffset = 0 then f.ipHeader else slot.header := by
  unfold Ipv4ReassSlot.store
  split_ifs <;> simp [foldl_presentSet]

lemma store_totalKnown : (slot.store tick f).totalKnown = (!f.moreFrags || slot.totalKnown) := by
  unfold Ipv4ReassSlot.store
  split_ifs <;> simp_all [foldl_presentSet]

lemma store_totalPayloadLen :
    (slot.store tick f).totalPayloadLen =
      if !f.moreFrags then f.fragOffset + f.payload.length else slot.totalPayloadLen := by
  unfold Ipv4ReassSlot.store
  split_ifs <;> simp [foldl_presentSet]

lemma store_payload (h : 0 < f.payload.length) :
    (slot.store tick f).payload = slot.payload.patch f.fragOffset f.payload := by
  unfold Ipv4ReassSlot.store
  split_ifs <;> simp [foldl_presentSet]

lemma store_present (h : 0 < f.payload.length) (block : Nat) :
    ipv4ReassPresentGet (slot.store tick f) block = true ↔
      ipv4ReassPresentGet slot block = true ∨ block < 512 ∧ f.fragOffset / 8 ≤ block ∧
        block < (f.fragOffset + f.payload.length + 7) / 8 := by
  have hpresent : (slot.store tick f).present = fun b => slot.present b ||
      decide ((b : Nat) ∈ List.range' (f.fragOffset / 8)
        ((f.fragOffset + f.payload.length + 7) / 8 - f.fragOffset / 8)) := by
    unfold Ipv4ReassSlot.store
    split_ifs <;> simp [foldl_presentSet]
  unfold ipv4ReassPresentGet
  rw [hpresent]
  split_ifs with hlt
  · simp only [List.mem_range'_1, Bool.or_eq_true, decide_eq_true_eq]
    refine or_congr Iff.rfl ?_
    omega
  · simp [hlt]

lemma claim_of_key (hused : slot.used = true) (hkey : slot.key = f.key) : slot.claim f = slot := by
  unfold Ipv4ReassSlot.claim
  simp [hused, hkey]

lemma claim_fresh (h : slot.used = true → slot.key ≠ f.key) : (slot.claim f).Fresh f := by
  have hclear : !slot.used ∨ slot.key ≠ f.key := by
    by_cases hused : slot.used = true
    · exact Or.inr (h hused)
    · exact Or.inl (by simpa using hused)
  unfold Ipv4ReassSlot.claim
  rw [if_pos hclear]
  refine ⟨rfl, rfl, rfl, rfl, fun block => ?_⟩
  unfold ipv4ReassPresentGet
  split_ifs <;> rfl

end

section

variable {r : Ipv4Reass} {keys : Finset Ipv4Key} {f : Ipv4Fragment}

/-- A fragment is added to what has arrived of its datagram. The entry is removed when the datagram
is complete, and no other entry changes. -/
theorem reassemble_step (h : r.Within keys) (hcard : keys.card ≤ 4) (hkey : f.key ∈ keys)
    (hf : f.Accepted) (tick : UInt32) :
    ∃ slot, ((ipv4ReassemblyGc tick r).get f.key = some slot ∨
        (ipv4ReassemblyGc tick r).get f.key = none ∧ slot.Fresh f) ∧
      (ipv4ReassemblePacket tick r f).2 =
        (if (slot.store tick f).Complete then some (slot.store tick f).packet else none) ∧
      (ipv4ReassemblePacket tick r f).1.Within keys ∧
      (ipv4ReassemblePacket tick r f).1.get f.key =
        (if (slot.store tick f).Complete then none else some (slot.store tick f)) ∧
      ∀ key ≠ f.key, (ipv4ReassemblePacket tick r f).1.get key =
        (ipv4ReassemblyGc tick r).get key := by
  unfold ipv4ReassemblePacket
  have hgc := h.gc tick
  have hfind := hgc.findSlot hcard hkey
  generalize ipv4ReassemblyGc tick r = r' at hgc hfind ⊢
  dsimp only
  generalize reassFindSlot r' f.key (List.finRange 4) none 0xFFFFFFFF none = i at hfind ⊢
  have hclaim : (((r' i).claim f).used = true ∧ ((r' i).claim f).key = f.key) ∧
      (r'.get f.key = some ((r' i).claim f) ∨ r'.get f.key = none ∧ ((r' i).claim f).Fresh f) := by
    by_cases hused : (r' i).used = true
    · have hown := hfind.own hused
      rw [claim_of_key hused hown]
      exact ⟨⟨hused, hown⟩, Or.inl (hgc.get_eq_some.2 ⟨i, hused, hown, rfl⟩)⟩
    · have hfresh := claim_fresh (f := f) fun h => absurd h hused
      refine ⟨⟨hfresh.used, hfresh.key⟩, Or.inr ⟨?_, hfresh⟩⟩
      rw [Ipv4Reass.get_eq_none]
      intro j hj
      by_cases hji : j = i
      · exact absurd (hji ▸ hj) hused
      · exact hfind.other j hji hj
  obtain ⟨⟨hused, hslot⟩, hentry⟩ := hclaim
  refine ⟨(r' i).claim f, hentry, ?_⟩
  generalize (r' i).claim f = slot at hused hslot
  have hkey' : (slot.store tick f).key = f.key := by rw [store_key, hslot]
  have hused' : (slot.store tick f).used = true := by rw [store_used, hused]
  split_ifs
  · have hdone : { slot.store tick f with used := false }.key = f.key := hkey'
    refine ⟨rfl, hfind.within hgc hkey hdone, ?_, fun key hne => ?_⟩
    · exact hfind.get_update hgc hkey hdone
    · exact hfind.get_update_of_ne hgc hkey hdone hne
  · refine ⟨rfl, hfind.within hgc hkey hkey', ?_, fun key hne => ?_⟩
    · have hget := hfind.get_update hgc hkey hkey'
      rwa [if_pos hused'] at hget
    · exact hfind.get_update_of_ne hgc hkey hkey' hne

lemma reassemble_of_not_accepted (hf : ¬ f.Accepted) (tick : UInt32) :
    ipv4ReassemblePacket tick r f = (r, none) := if_pos hf

end

end NeuroSpark
