import NeuroSpark.Lib.Machine
import NeuroSpark.Net.Slots

/-!
# What a reassembled packet is made of

A slot remembers which blocks of eight bytes a fragment touched, however little of a block the
fragment carried, and its buffer is not cleared between datagrams. So a packet may hold bytes that
no fragment carried: those at the end of a block that a fragment ended in. Where there are none, the
packet is the same whatever the buffer held before.
-/

namespace NeuroSpark

open Network

/-! ### Fragments that arrived -/

namespace Ipv4Fragment

def fragEnd (f : Ipv4Fragment) : Nat := f.fragOffset + f.payload.length

/-- The fragment carries a byte for this place. -/
def Covers (f : Ipv4Fragment) (k : Nat) : Prop := f.fragOffset ≤ k ∧ k < f.fragEnd

instance (f : Ipv4Fragment) (k : Nat) : Decidable (f.Covers k) :=
  inferInstanceAs (Decidable (_ ∧ _))

def byteAt (f : Ipv4Fragment) (k : Nat) : UInt8 := f.payload.getD (k - f.fragOffset) 0

end Ipv4Fragment

/-- The fragments of a datagram, each with the time of its arrival, the newest first. -/
abbrev Arrivals := List (UInt32 × Ipv4Fragment)

namespace Arrivals

/-- Where the last fragment ends. -/
def total (l : Arrivals) : Nat := ((l.find? fun a => !a.2.moreFrags).map (·.2.fragEnd)).getD 0

/-- The header of the first fragment. -/
def header (l : Arrivals) : List UInt8 :=
  ((l.find? fun a => a.2.fragOffset = 0).map (·.2.ipHeader)).getD []

/-- The header of the packet, with its length, its flags and its checksum set. -/
def packetHeader (l : Arrivals) : List UInt8 :=
  let header := writeBe16 l.header 2 (l.header.length + l.total)
  let header := writeBe16 (writeBe16 header 6 0) 10 0
  writeBe16 header 10 (internetChecksum header)

/-- The byte that was carried last for this place. -/
def byteAt (l : Arrivals) (k : Nat) : Option UInt8 :=
  (l.find? fun a => a.2.Covers k).map (·.2.byteAt k)

/-- Some fragment ends inside a block of eight bytes, and no fragment carries a byte at a place
behind it in the block, before the end of the datagram. -/
def Ragged (l : Arrivals) : Prop :=
  ∃ a ∈ l, 0 < a.2.payload.length ∧ ∃ k, a.2.fragEnd ≤ k ∧ k < (a.2.fragEnd + 7) / 8 * 8 ∧
    k < l.total ∧ ∀ b ∈ l, ¬ b.2.Covers k

/-- Every byte behind the header of the packet was carried for its place by one of the fragments. -/
def OnlyCarried (l : Arrivals) (packet : List UInt8) : Prop :=
  ∀ k < packet.length - l.header.length, ∃ a ∈ l, a.2.Covers k ∧
    a.2.byteAt k = packet.getD (l.header.length + k) 0

instance (l : Arrivals) (packet : List UInt8) : Decidable (l.OnlyCarried packet) :=
  inferInstanceAs (Decidable (∀ k < _, ∃ a ∈ l, _ ∧ _))

lemma header_le {l : Arrivals} (h : ∀ a ∈ l, a.2.Accepted) : l.header.length ≤ ipv4MaxHeader := by
  unfold header
  cases hfind : l.find? fun a => a.2.fragOffset = 0 with
  | none => exact Nat.zero_le _
  | some a => exact (h a (List.mem_of_find?_eq_some hfind)).2.1

lemma total_le {l : Arrivals} (h : ∀ a ∈ l, a.2.Accepted) : l.total ≤ ipv4ReassMaxPayload := by
  unfold total
  cases hfind : l.find? fun a => !a.2.moreFrags with
  | none => exact Nat.zero_le _
  | some a => exact (h a (List.mem_of_find?_eq_some hfind)).2.2

end Arrivals

/-- A slot that was cleared for a datagram. -/
def Ipv4ReassSlot.started (payload : Bytes 4096) (key : Ipv4Key) : Ipv4ReassSlot where
  used := true
  srcIp := key.1
  dstIp := key.2.1
  ident := key.2.2.1
  proto := key.2.2.2
  haveFirst := false
  totalKnown := false
  totalPayloadLen := 0
  lastTick := 0
  header := []
  payload := payload
  present := fun _ => false

/-- The slot after fragments have arrived, when its buffer held `payload` at the start. -/
def Ipv4ReassSlot.built (payload : Bytes 4096) (key : Ipv4Key) : Arrivals → Ipv4ReassSlot
  | [] => .started payload key
  | (tick, f) :: l => (Ipv4ReassSlot.built payload key l).store tick f

namespace Ipv4ReassSlot

section

variable {payload payload' : Bytes 4096} {key : Ipv4Key} {l : Arrivals} {k : Nat}

/-! ### What a slot knows -/

@[simp] lemma built_used : (built payload key l).used = true := by
  induction l with
  | nil => rfl
  | cons a l ih => rw [built, store_used, ih]

@[simp] lemma built_key : (built payload key l).key = key := by
  induction l with
  | nil => rfl
  | cons a l ih => rw [built, store_key, ih]

lemma built_haveFirst : (built payload key l).haveFirst =
    (l.find? fun a => a.2.fragOffset = 0).isSome := by
  induction l with
  | nil => rfl
  | cons a l ih =>
    rw [built, store_haveFirst, ih, List.find?_cons]
    by_cases hfirst : a.2.fragOffset = 0 <;> simp [hfirst]

lemma built_header : (built payload key l).header = l.header := by
  induction l with
  | nil => rfl
  | cons a l ih =>
    rw [built, store_header, ih, Arrivals.header, Arrivals.header, List.find?_cons]
    by_cases hfirst : a.2.fragOffset = 0 <;> simp [hfirst]

lemma built_totalKnown : (built payload key l).totalKnown =
    (l.find? fun a => !a.2.moreFrags).isSome := by
  induction l with
  | nil => rfl
  | cons a l ih =>
    rw [built, store_totalKnown, ih, List.find?_cons]
    cases a.2.moreFrags <;> rfl

lemma built_total : (built payload key l).totalPayloadLen = l.total := by
  induction l with
  | nil => rfl
  | cons a l ih =>
    rw [built, store_totalPayloadLen, ih, Arrivals.total, Arrivals.total, List.find?_cons]
    cases a.2.moreFrags <;> rfl

lemma store_of_empty {slot : Ipv4ReassSlot} {tick : UInt32} {f : Ipv4Fragment}
    (h : f.payload.length = 0) : (slot.store tick f).payload = slot.payload ∧
      (slot.store tick f).present = slot.present := by
  have hnot : ¬ f.payload.length > 0 := by omega
  unfold store
  split_ifs <;> exact ⟨rfl, rfl⟩

lemma built_present (block : Nat) : ipv4ReassPresentGet (built payload key l) block = true ↔
    block < 512 ∧ ∃ a ∈ l, 0 < a.2.payload.length ∧ a.2.fragOffset / 8 ≤ block ∧
      block < (a.2.fragEnd + 7) / 8 := by
  induction l with
  | nil =>
    unfold ipv4ReassPresentGet
    split_ifs <;> simp [built, started]
  | cons a l ih =>
    rw [List.exists_mem_cons_iff, and_or_left, ← ih, built]
    rcases Nat.eq_zero_or_pos a.2.payload.length with hzero | hpos
    · rw [ipv4ReassPresentGet, (store_of_empty hzero).2, ← ipv4ReassPresentGet]
      simp [hzero]
    · rw [store_present hpos, or_comm]
      simp only [hpos, true_and, Ipv4Fragment.fragEnd]

/-- The bytes of the buffer: those that were carried, and elsewhere what was there before. -/
lemma built_payload (haccepted : ∀ a ∈ l, a.2.Accepted) :
    (built payload key l).payload.get k = (l.byteAt k).getD (payload.get k) := by
  induction l with
  | nil => rfl
  | cons a l ih =>
    have hbound := (haccepted a List.mem_cons_self).2.2
    have hrest := ih fun b hb => haccepted b (List.mem_cons_of_mem _ hb)
    rw [built, Arrivals.byteAt, List.find?_cons]
    rcases Nat.eq_zero_or_pos a.2.payload.length with hzero | hpos
    · have hcovers : ¬ a.2.Covers k := by
        rintro ⟨hle, hlt⟩
        rw [Ipv4Fragment.fragEnd, hzero] at hlt
        omega
      simp only [(store_of_empty hzero).1, hcovers, decide_false]
      exact hrest
    · rw [store_payload hpos]
      by_cases hcovers : a.2.Covers k
      · obtain ⟨j, rfl⟩ := Nat.exists_eq_add_of_le hcovers.1
        have hj : j < a.2.payload.length := by
          have hlt := hcovers.2
          rw [Ipv4Fragment.fragEnd] at hlt
          omega
        have hfit : a.2.fragOffset + a.2.payload.length ≤ 4096 := hbound
        rw [Bytes.get_patch_of_mem _ _ _ _ hj (by omega)]
        simp [hcovers, Ipv4Fragment.byteAt, hj]
      · have hsame : ((built payload key l).payload.patch a.2.fragOffset a.2.payload).get k =
            (built payload key l).payload.get k := by
          by_cases hle : a.2.fragOffset ≤ k
          · refine Bytes.get_patch_of_ge _ _ ?_
            exact Nat.not_lt.1 fun hlt => hcovers ⟨hle, hlt⟩
          · exact Bytes.get_patch_of_lt _ _ (by omega)
        simp only [hsame, hcovers, decide_false]
        exact hrest

lemma built_complete : (built payload key l).Complete ↔ (built payload' key l).Complete := by
  have hpresent : ∀ block, ipv4ReassPresentGet (built payload key l) block = true ↔
      ipv4ReassPresentGet (built payload' key l) block = true := by
    intro block
    rw [built_present, built_present]
  unfold Complete
  simp only [built_haveFirst, built_totalKnown, built_total, hpresent]

lemma built_lastTick {tick : UInt32} {f : Ipv4Fragment} :
    (built payload key ((tick, f) :: l)).lastTick = tick := store_lastTick

/-! ### The packet of a slot -/

lemma covered_iff (hcomplete : (built payload key l).Complete) :
    (∀ k < l.total, ∃ a ∈ l, a.2.Covers k) ↔ ¬ l.Ragged := by
  constructor
  · rintro hall ⟨a, -, -, k, -, -, hk, hnone⟩
    obtain ⟨b, hb, hcovers⟩ := hall k hk
    exact hnone b hb hcovers
  · intro hragged k hk
    by_contra hnone
    have hnone' : ∀ b ∈ l, ¬ b.2.Covers k := fun b hb hcovers => hnone ⟨b, hb, hcovers⟩
    rw [Complete, built_total] at hcomplete
    have hblock := hcomplete.2.2 (k / 8) (by omega)
    rw [built_present] at hblock
    obtain ⟨-, a, ha, hpos, hfirst, hlast⟩ := hblock
    -- a fragment starts at a block
    have hstart : a.2.fragOffset ≤ k := by
      rw [Ipv4Fragment.fragOffset] at hfirst ⊢
      omega
    have hbehind : a.2.fragEnd ≤ k := Nat.not_lt.1 fun hlt => hnone' a ha ⟨hstart, hlt⟩
    exact hragged ⟨a, ha, hpos, k, hbehind, by omega, hk, hnone'⟩

lemma byteAt_of_covered (h : ∃ a ∈ l, a.2.Covers k) :
    ∃ a ∈ l, a.2.Covers k ∧ l.byteAt k = some (a.2.byteAt k) := by
  unfold Arrivals.byteAt
  cases hfind : l.find? fun a => a.2.Covers k with
  | none =>
    obtain ⟨a, ha, hcovers⟩ := h
    rw [List.find?_eq_none] at hfind
    exact absurd (by simpa using hcovers) (hfind a ha)
  | some a =>
    have hcovers := List.find?_some hfind
    exact ⟨a, List.mem_of_find?_eq_some hfind, by simpa using hcovers, rfl⟩

section

variable (haccepted : ∀ a ∈ l, a.2.Accepted) (hcomplete : (built payload key l).Complete)
include haccepted hcomplete

lemma length_header : 20 ≤ l.header.length := by
  have hfirst := hcomplete.1
  rw [built_haveFirst] at hfirst
  obtain ⟨a, hfind⟩ := Option.isSome_iff_exists.1 hfirst
  rw [Arrivals.header, hfind]
  exact (haccepted a (List.mem_of_find?_eq_some hfind)).1

omit haccepted hcomplete in
lemma packet_eq :
    (built payload key l).packet =
      l.packetHeader ++ (built payload key l).payload.slice 0 l.total := by
  unfold packet
  simp only [built_header, built_total]
  rfl

omit haccepted hcomplete in
lemma length_packetHeader (h : 20 ≤ l.header.length) : l.packetHeader.length = l.header.length := by
  have hfirst : (writeBe16 l.header 2 (l.header.length + l.total)).length = l.header.length :=
    length_writeBe16 _ (by omega)
  have hsecond : (writeBe16 (writeBe16 l.header 2 (l.header.length + l.total)) 6 0).length =
      l.header.length := (length_writeBe16 _ (by omega)).trans hfirst
  have hthird : (writeBe16 (writeBe16 (writeBe16 l.header 2 (l.header.length + l.total)) 6 0)
      10 0).length = l.header.length := (length_writeBe16 _ (by omega)).trans hsecond
  exact (length_writeBe16 _ (by omega)).trans hthird

lemma onlyCarried_iff : l.OnlyCarried (built payload key l).packet ↔ ¬ l.Ragged := by
  have hlength := length_packetHeader (length_header haccepted hcomplete)
  rw [← covered_iff hcomplete, Arrivals.OnlyCarried, packet_eq, List.length_append,
    Bytes.length_slice, hlength, Nat.add_sub_cancel_left]
  refine forall₂_congr fun k hk => ⟨?_, fun hcovered => ?_⟩
  · rintro ⟨a, ha, hcovers, -⟩
    exact ⟨a, ha, hcovers⟩
  · obtain ⟨a, ha, hcovers, hbyte⟩ := byteAt_of_covered hcovered
    refine ⟨a, ha, hcovers, ?_⟩
    rw [← hlength, List.getD_eq_getElem?_getD, List.getElem?_append_right (by omega),
      Nat.add_sub_cancel_left, List.getElem?_eq_getElem (by simpa using hk), Option.getD_some,
      Bytes.getElem_slice, Nat.zero_add, built_payload haccepted, hbyte]
    rfl

lemma packet_congr (hragged : ¬ l.Ragged) :
    (built payload key l).packet = (built payload' key l).packet := by
  rw [packet_eq, packet_eq]
  congr 1
  refine Bytes.slice_congr fun k _ hk => ?_
  obtain ⟨a, -, -, hbyte⟩ :=
    byteAt_of_covered ((covered_iff hcomplete).2 hragged k (by omega))
  rw [built_payload haccepted, built_payload haccepted, hbyte]
  rfl

end

end

/-! ### Two slots whose buffers held different bytes -/

/-- The slot is cleared for the fragment. -/
def Cleared (slot : Ipv4ReassSlot) (f : Ipv4Fragment) : Prop := !slot.used ∨ slot.key ≠ f.key

instance (slot : Ipv4ReassSlot) (f : Ipv4Fragment) : Decidable (slot.Cleared f) :=
  inferInstanceAs (Decidable (_ ∨ _))

/-- Both slots were built from the fragments. -/
structure BothBuilt (slot slot' : Ipv4ReassSlot) (key : Ipv4Key) (l : Arrivals) : Prop where
  ne_nil : l ≠ []
  accepted : ∀ a ∈ l, a.2.Accepted
  same : ∀ a ∈ l, a.2.key = key
  left : ∃ payload, slot = built payload key l
  right : ∃ payload, slot' = built payload key l

/-- Neither slot is used, or both were built from the fragments. -/
def Twins (slot slot' : Ipv4ReassSlot) (l : Arrivals) : Prop :=
  (slot.used = false ∧ slot'.used = false) ∨ ∃ key, BothBuilt slot slot' key l

section

variable {slot slot' : Ipv4ReassSlot} {key : Ipv4Key} {l : Arrivals} {f : Ipv4Fragment}
  {tick : UInt32}

lemma BothBuilt.visible (h : BothBuilt slot slot' key l) :
    slot.used = true ∧ slot'.used = true ∧ slot.key = key ∧ slot'.key = key ∧
      slot.lastTick = slot'.lastTick := by
  obtain ⟨payload, rfl⟩ := h.left
  obtain ⟨payload', rfl⟩ := h.right
  refine ⟨built_used, built_used, built_key, built_key, ?_⟩
  cases l with
  | nil => exact absurd rfl h.ne_nil
  | cons a l => rw [built_lastTick, built_lastTick]

lemma BothBuilt.complete (h : BothBuilt slot slot' key l) : slot.Complete ↔ slot'.Complete := by
  obtain ⟨payload, rfl⟩ := h.left
  obtain ⟨payload', rfl⟩ := h.right
  exact built_complete

lemma BothBuilt.packet (h : BothBuilt slot slot' key l) (hcomplete : slot.Complete)
    (hragged : ¬ l.Ragged) : slot'.packet = slot.packet := by
  obtain ⟨payload, rfl⟩ := h.left
  obtain ⟨payload', rfl⟩ := h.right
  exact (packet_congr h.accepted hcomplete hragged).symm

lemma Twins.used (h : Twins slot slot' l) : slot.used = slot'.used := by
  rcases h with ⟨hleft, hright⟩ | ⟨key, hboth⟩
  · rw [hleft, hright]
  · rw [hboth.visible.1, hboth.visible.2.1]

lemma Twins.visible (h : Twins slot slot' l) (hused : slot.used = true) :
    slot.key = slot'.key ∧ slot.lastTick = slot'.lastTick := by
  rcases h with ⟨hleft, -⟩ | ⟨key, hboth⟩
  · exact absurd (hused.symm.trans hleft) (by decide)
  · obtain ⟨-, -, hkey, hkey', htick⟩ := hboth.visible
    exact ⟨hkey.trans hkey'.symm, htick⟩

lemma Twins.cleared (h : Twins slot slot' l) : slot.Cleared f ↔ slot'.Cleared f := by
  unfold Cleared
  rw [← h.used]
  by_cases hused : slot.used = true
  · rw [(h.visible hused).1]
  · simp [hused]

lemma store_claim_of_cleared (h : slot.Cleared f) :
    (slot.claim f).store tick f = built slot.payload f.key [(tick, f)] := by
  unfold Ipv4ReassSlot.claim
  unfold Cleared at h
  rw [if_pos h]
  rfl

lemma Twins.store (h : Twins slot slot' l) (hf : f.Accepted) :
    BothBuilt ((slot.claim f).store tick f) ((slot'.claim f).store tick f) f.key
      ((tick, f) :: if slot.Cleared f then [] else l) := by
  split_ifs with hcleared
  · rw [store_claim_of_cleared hcleared, store_claim_of_cleared (h.cleared.1 hcleared)]
    exact ⟨by simp, by simpa using hf, by simp, ⟨_, rfl⟩, ⟨_, rfl⟩⟩
  · have hheld : slot.used = true ∧ slot.key = f.key := by
      simpa [Cleared, not_or] using hcleared
    rcases h with ⟨hleft, -⟩ | ⟨key, hboth⟩
    · exact absurd (hheld.1.symm.trans hleft) (by decide)
    · obtain ⟨-, hused', hkey, hkey', -⟩ := hboth.visible
      obtain rfl : key = f.key := hkey.symm.trans hheld.2
      rw [claim_of_key hheld.1 hheld.2, claim_of_key hused' hkey']
      obtain ⟨payload, hleft⟩ := hboth.left
      obtain ⟨payload', hright⟩ := hboth.right
      refine ⟨by simp, ?_, ?_, ⟨payload, by rw [hleft]; rfl⟩, ⟨payload', by rw [hright]; rfl⟩⟩
      · exact List.forall_mem_cons.2 ⟨hf, hboth.accepted⟩
      · exact List.forall_mem_cons.2 ⟨rfl, hboth.same⟩

end

end Ipv4ReassSlot

/-! ### Runs -/

open Ipv4ReassSlot

/-- What can happen to the slots. -/
inductive ReassOp where
  | fragment (tick : UInt32) (f : Ipv4Fragment)
  | gc (tick : UInt32)

def reassOpStep (r : Ipv4Reass) : ReassOp → Ipv4Reass × Option (List UInt8)
  | .fragment tick f => ipv4ReassemblePacket tick r f
  | .gc tick => (ipv4ReassemblyGc tick r, none)

/-- The slot that a fragment goes to. -/
def reassSlotOf (tick : UInt32) (r : Ipv4Reass) (f : Ipv4Fragment) : Fin 4 :=
  reassFindSlot (ipv4ReassemblyGc tick r) f.key (List.finRange 4) none 0xFFFFFFFF none

/-- The fragments that each slot got since it was started, after one more step. -/
def arriveAt (r : Ipv4Reass) (arrived : Fin 4 → Arrivals) : ReassOp → Fin 4 → Arrivals
  | .fragment tick f =>
    let i := reassSlotOf tick r f
    if f.Accepted then
      Function.update arrived i
        ((tick, f) :: if (ipv4ReassemblyGc tick r i).Cleared f then [] else arrived i)
    else arrived
  | .gc _ => arrived

/-- The fragments that each slot got since it was started, after a run. -/
def arrivedAlong (r : Ipv4Reass) (arrived : Fin 4 → Arrivals) : List ReassOp → Fin 4 → Arrivals
  | [] => arrived
  | op :: ops => arrivedAlong (reassOpStep r op).1 (arriveAt r arrived op) ops

/-- The fragments that the slot of a fragment got since it was started, with this one: what was
received of its datagram. -/
def receivedOf (r : Ipv4Reass) (ops : List ReassOp) (tick : UInt32) (f : Ipv4Fragment) : Arrivals :=
  let r' := Machine.run reassOpStep r ops
  arriveAt r' (arrivedAlong r (fun _ => []) ops) (.fragment tick f) (reassSlotOf tick r' f)

section

variable {r r' : Ipv4Reass} {arrived : Fin 4 → Arrivals} {tick : UInt32} {f : Ipv4Fragment}

section

variable (h : ∀ i, Twins (r i) (r' i) (arrived i))
include h

lemma findSlot_congr (key : Ipv4Key) (l : List (Fin 4)) (free : Option (Fin 4))
    (oldestTick : UInt32) (oldest : Option (Fin 4)) :
    reassFindSlot r key l free oldestTick oldest =
      reassFindSlot r' key l free oldestTick oldest := by
  induction l generalizing free oldestTick oldest with
  | nil => rfl
  | cons i l ih =>
    rw [reassFindSlot, reassFindSlot, ← (h i).used]
    by_cases hused : (r i).used = true
    · obtain ⟨hkey, htick⟩ := (h i).visible hused
      simp only [hused, Bool.not_true, Bool.false_eq_true, if_false, hkey, htick, ih]
    · have hunused : (!(r i).used) = true := by simpa using hused
      rw [if_pos hunused, if_pos hunused, ih]

lemma gc_twins (i : Fin 4) :
    Twins (ipv4ReassemblyGc tick r i) (ipv4ReassemblyGc tick r' i) (arrived i) := by
  unfold ipv4ReassemblyGc
  by_cases hused : (r i).used = true
  · rw [← (h i).used, ← ((h i).visible hused).2]
    split_ifs
    · exact Or.inl ⟨rfl, rfl⟩
    · exact h i
  · have hused' : ¬ (r' i).used = true := by rwa [← (h i).used]
    rw [if_neg fun hold => hused hold.1, if_neg fun hold => hused' hold.1]
    exact h i

lemma slotOf_twins : reassSlotOf tick r f = reassSlotOf tick r' f :=
  findSlot_congr (gc_twins h) ..

lemma store_twins (hf : f.Accepted) (tick : UInt32) :
    BothBuilt (((ipv4ReassemblyGc tick r (reassSlotOf tick r f)).claim f).store tick f)
      (((ipv4ReassemblyGc tick r' (reassSlotOf tick r f)).claim f).store tick f) f.key
      (arriveAt r arrived (.fragment tick f) (reassSlotOf tick r f)) := by
  simp only [arriveAt, if_pos hf, Function.update_self]
  exact (gc_twins h (reassSlotOf tick r f)).store hf

omit h in
lemma ipv4ReassemblePacket_accepted (r : Ipv4Reass) (tick : UInt32) (hf : f.Accepted)
    {slot : Ipv4ReassSlot}
    (hslot : ((ipv4ReassemblyGc tick r (reassSlotOf tick r f)).claim f).store tick f = slot) :
    ipv4ReassemblePacket tick r f =
      if slot.Complete then
        (Function.update (ipv4ReassemblyGc tick r) (reassSlotOf tick r f)
          { slot with used := false }, some slot.packet)
      else
        (Function.update (ipv4ReassemblyGc tick r) (reassSlotOf tick r f) slot, none) := by
  subst hslot
  unfold ipv4ReassemblePacket
  rw [if_neg (not_not.2 hf)]
  rfl

lemma reassOpStep_twins (op : ReassOp) : arriveAt r arrived op = arriveAt r' arrived op ∧
      ∀ i, Twins ((reassOpStep r op).1 i) ((reassOpStep r' op).1 i) (arriveAt r arrived op i) := by
  cases op with
  | gc tick => exact ⟨rfl, gc_twins h⟩
  | fragment tick f =>
    by_cases hf : f.Accepted
    · have hslot : reassSlotOf tick r' f = reassSlotOf tick r f := (slotOf_twins h).symm
      have hstored := store_twins h hf tick
      constructor
      · have hcleared : (ipv4ReassemblyGc tick r (reassSlotOf tick r f)).Cleared f ↔
            (ipv4ReassemblyGc tick r' (reassSlotOf tick r f)).Cleared f :=
          (gc_twins h _).cleared
        simp only [arriveAt, hslot, hcleared]
      · intro i
        have hleft := ipv4ReassemblePacket_accepted r tick hf rfl
        have hright := ipv4ReassemblePacket_accepted r' tick hf rfl
        rw [hslot] at hright
        change Twins ((ipv4ReassemblePacket tick r f).1 i) ((ipv4ReassemblePacket tick r' f).1 i) _
        rw [hleft, hright, ← if_congr hstored.complete rfl rfl]
        by_cases hi : i = reassSlotOf tick r f
        · subst hi
          split_ifs
          · simp only [Function.update_self]
            exact Or.inl ⟨rfl, rfl⟩
          · simp only [Function.update_self]
            exact Or.inr ⟨_, hstored⟩
        · have hother : arriveAt r arrived (.fragment tick f) i = arrived i := by
            simp only [arriveAt, if_pos hf, Function.update_of_ne hi]
          rw [hother]
          split_ifs <;> simpa only [Function.update_of_ne hi] using gc_twins h i
    · have hleft : ipv4ReassemblePacket tick r f = (r, none) := reassemble_of_not_accepted hf tick
      have hright : ipv4ReassemblePacket tick r' f = (r', none) :=
        reassemble_of_not_accepted hf tick
      simp only [arriveAt, if_neg hf, reassOpStep, hleft, hright]
      exact ⟨trivial, h⟩

lemma run_twins {ops : List ReassOp} : arrivedAlong r arrived ops = arrivedAlong r' arrived ops ∧
      ∀ i, Twins (Machine.run reassOpStep r ops i) (Machine.run reassOpStep r' ops i)
        (arrivedAlong r arrived ops i) := by
  induction ops generalizing r r' arrived with
  | nil => exact ⟨rfl, h⟩
  | cons op ops ih =>
    obtain ⟨hsame, htwins⟩ := reassOpStep_twins h op
    obtain ⟨halong, hrun⟩ := ih htwins
    refine ⟨?_, hrun⟩
    rw [arrivedAlong, arrivedAlong, ← hsame]
    exact halong

end

lemma reassemble_bothBuilt (hunused : ∀ i, (r i).used = false) (hunused' : ∀ i, (r' i).used = false)
    (ops : List ReassOp) (hf : f.Accepted) (tick : UInt32) : ∃ slot slot',
      BothBuilt slot slot' f.key (receivedOf r ops tick f) ∧
      (ipv4ReassemblePacket tick (Machine.run reassOpStep r ops) f).2 =
        (if slot.Complete then some slot.packet else none) ∧
      (ipv4ReassemblePacket tick (Machine.run reassOpStep r' ops) f).2 =
        (if slot'.Complete then some slot'.packet else none) := by
  have htwins : ∀ i, Twins (Machine.run reassOpStep r ops i) (Machine.run reassOpStep r' ops i)
      (arrivedAlong r (fun _ => []) ops i) :=
    (run_twins fun i => Or.inl ⟨hunused i, hunused' i⟩).2
  refine ⟨_, _, store_twins htwins hf tick, ?_, ?_⟩
  · rw [ipv4ReassemblePacket_accepted _ _ hf rfl]
    split_ifs <;> rfl
  · rw [slotOf_twins htwins, ipv4ReassemblePacket_accepted _ _ hf rfl]
    split_ifs <;> rfl

lemma accepted_of_packet {packet : List UInt8}
    (hpacket : (ipv4ReassemblePacket tick r f).2 = some packet) : f.Accepted := by
  by_contra hf
  rw [reassemble_of_not_accepted hf] at hpacket
  cases hpacket

lemma ite_some_eq_some {p : Prop} [Decidable p] {a b : List UInt8}
    (h : (if p then some a else none) = some b) : p ∧ a = b := by
  split_ifs at h with hp
  exact ⟨hp, Option.some.inj h⟩

variable (tick) in
lemma length_reassembled (hunused : ∀ i, (r i).used = false) (ops : List ReassOp)
    {packet : List UInt8}
    (hpacket : (ipv4ReassemblePacket tick (Machine.run reassOpStep r ops) f).2 = some packet) :
    packet.length ≤ ipv4MaxHeader + ipv4ReassMaxPayload := by
  obtain ⟨slot, slot', hbuilt, houtput, -⟩ :=
    reassemble_bothBuilt hunused hunused ops (accepted_of_packet hpacket) tick
  rw [houtput] at hpacket
  obtain ⟨hcomplete, rfl⟩ := ite_some_eq_some hpacket
  obtain ⟨payload, rfl⟩ := hbuilt.left
  have hlength := length_packetHeader (length_header hbuilt.accepted hcomplete)
  rw [packet_eq, List.length_append, Bytes.length_slice, hlength]
  exact Nat.add_le_add (Arrivals.header_le hbuilt.accepted) (Arrivals.total_le hbuilt.accepted)

/-- Of a packet that is put together, every byte behind its header was carried by a fragment that
was received since the slot was started, and the packet is the same whatever the unused slots held
at first, if and only if no fragment ended inside a block whose rest was not carried. -/
theorem ipv4ReassemblePacket_carried_iff (hunused : ∀ i, (r i).used = false) (ops : List ReassOp)
    {packet : List UInt8}
    (hpacket : (ipv4ReassemblePacket tick (Machine.run reassOpStep r ops) f).2 = some packet) :
    (∀ a ∈ receivedOf r ops tick f, a.2.key = f.key) ∧
      (((receivedOf r ops tick f).OnlyCarried packet ∧
          ∀ r' : Ipv4Reass, (∀ i, (r' i).used = false) →
            (ipv4ReassemblePacket tick (Machine.run reassOpStep r' ops) f).2 = some packet) ↔
        ¬ (receivedOf r ops tick f).Ragged) := by
  have hf := accepted_of_packet hpacket
  obtain ⟨slot, slot', hbuilt, houtput, -⟩ :=
    reassemble_bothBuilt hunused hunused ops hf tick
  have hdone := hpacket
  rw [houtput] at hdone
  obtain ⟨hcomplete, rfl⟩ := ite_some_eq_some hdone
  have hcarried : (receivedOf r ops tick f).OnlyCarried slot.packet ↔
      ¬ (receivedOf r ops tick f).Ragged := by
    obtain ⟨payload, rfl⟩ := hbuilt.left
    exact onlyCarried_iff hbuilt.accepted hcomplete
  refine ⟨hbuilt.same, fun h => hcarried.1 h.1, fun hragged => ⟨hcarried.2 hragged, ?_⟩⟩
  intro r' hunused'
  obtain ⟨slot₁, slot₂, hbuilt', houtput', hother⟩ :=
    reassemble_bothBuilt hunused hunused' ops hf tick
  rw [houtput'] at hpacket
  obtain ⟨hcomplete', hsame⟩ := ite_some_eq_some hpacket
  rw [hother, if_pos (hbuilt'.complete.1 hcomplete'), hbuilt'.packet hcomplete' hragged, hsame]

end

/-- Slots that are not used and whose buffers hold one byte throughout. -/
def unusedSlots (leftover : UInt8) : Ipv4Reass :=
  fun _ => { started (fun _ => leftover) (0, 0, 0, 0) with used := false }

/-- A fragment of a datagram from 10.0.2.2. -/
def sampleFragment (fragOffFlags : Nat) (payload : List UInt8) : Ipv4Fragment where
  srcIp := 0x0A000202
  dstIp := 0x0A00020F
  proto := ipProtoUdp
  ident := 7
  fragOffFlags := fragOffFlags
  ipHeader := ipv4Header (20 + payload.length) 7 fragOffFlags 64 ipProtoUdp 0x0A000202 0x0A00020F
  payload := payload

/-- Two fragments, the first of which fills its block. -/
theorem ipv4ReassemblePacket_carried_filled : ∃ packet,
    (ipv4ReassemblePacket 5 (Machine.run reassOpStep (unusedSlots 0)
      [.fragment 5 (sampleFragment 0x2000 [1, 2, 3, 4, 5, 6, 7, 8])])
      (sampleFragment 1 [9, 10])).2 = some packet ∧
    (receivedOf (unusedSlots 0) [.fragment 5 (sampleFragment 0x2000 [1, 2, 3, 4, 5, 6, 7, 8])] 5
      (sampleFragment 1 [9, 10])).OnlyCarried packet := by
  have hsome : (ipv4ReassemblePacket 5 (Machine.run reassOpStep (unusedSlots 0)
      [.fragment 5 (sampleFragment 0x2000 [1, 2, 3, 4, 5, 6, 7, 8])])
      (sampleFragment 1 [9, 10])).2.isSome = true := by decide
  obtain ⟨packet, hpacket⟩ := Option.isSome_iff_exists.1 hsome
  refine ⟨packet, hpacket, ?_⟩
  refine ((ipv4ReassemblePacket_carried_iff (fun _ => rfl) _ hpacket).2.2 ?_).1
  rintro ⟨a, ha, -, k, hbehind, hblock, htotal, -⟩
  have hends : ∀ a ∈ receivedOf (unusedSlots 0)
      [.fragment 5 (sampleFragment 0x2000 [1, 2, 3, 4, 5, 6, 7, 8])] 5 (sampleFragment 1 [9, 10]),
      a.2.fragEnd % 8 = 0 ∨ a.2.fragEnd = Arrivals.total (receivedOf (unusedSlots 0)
        [.fragment 5 (sampleFragment 0x2000 [1, 2, 3, 4, 5, 6, 7, 8])] 5
        (sampleFragment 1 [9, 10])) := by decide
  have := hends a ha
  omega

/-- A first fragment of four bytes and a last one behind its block: four bytes of the packet were
carried by no fragment, and are what the buffer held. -/
theorem ipv4ReassemblePacket_leaks : ∃ packet packet' : List UInt8,
    (ipv4ReassemblePacket 5 (Machine.run reassOpStep (unusedSlots 0x41)
      [.fragment 5 (sampleFragment 0x2000 [1, 2, 3, 4])]) (sampleFragment 1 [9, 10])).2 =
        some packet ∧
    (ipv4ReassemblePacket 5 (Machine.run reassOpStep (unusedSlots 0x42)
      [.fragment 5 (sampleFragment 0x2000 [1, 2, 3, 4])]) (sampleFragment 1 [9, 10])).2 =
        some packet' ∧
    (packet.drop 20 = [1, 2, 3, 4, 0x41, 0x41, 0x41, 0x41, 9, 10] ∧
      packet'.drop 20 = [1, 2, 3, 4, 0x42, 0x42, 0x42, 0x42, 9, 10]) ∧
    ¬ (receivedOf (unusedSlots 0x41) [.fragment 5 (sampleFragment 0x2000 [1, 2, 3, 4])] 5
      (sampleFragment 1 [9, 10])).OnlyCarried packet := by
  refine ⟨_, _, rfl, rfl, ?_, ?_⟩
  · decide
  · decide

end NeuroSpark
