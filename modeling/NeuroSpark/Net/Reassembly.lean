import Mathlib.Data.List.Chain
import Mathlib.Tactic.IntervalCases
import NeuroSpark.Lib.Machine
import NeuroSpark.Net.Fragments
import NeuroSpark.Net.Slots

/-!
# Fragments are put together again

The fragments of one datagram may arrive in any order and more than once, with fragments of other
datagrams between them. Its slot holds what has arrived; when nothing is missing the payload is the
one that was sent.
-/

namespace NeuroSpark

open Network

/-! ### The fragments of a datagram -/

/-- A datagram that is sent. -/
structure Ipv4Outgoing where
  srcIp : UInt32
  dstIp : UInt32
  protocol : UInt8
  payload : List UInt8
  ttl : UInt8
  ident : UInt16

namespace Ipv4Outgoing

variable (d : Ipv4Outgoing)

def key : Ipv4Key := (d.srcIp, d.dstIp, d.ident, d.protocol)

def fragEnd (k : Nat) : Nat := min (1480 * k + 1480) d.payload.length

def fragFlags (k : Nat) : Nat :=
  flagsOff (1480 * k) (fragPayload (d.payload.length - 1480 * k)) d.payload.length

def header (k : Nat) : List UInt8 :=
  ipv4Header (20 + fragPayload (d.payload.length - 1480 * k)) d.ident (d.fragFlags k) d.ttl d.protocol
    d.srcIp d.dstIp

/-- Fragment `k`, as the receiver sees it. -/
def fragment (k : Nat) : Ipv4Fragment where
  srcIp := d.srcIp
  dstIp := d.dstIp
  proto := d.protocol
  ident := d.ident
  fragOffFlags := d.fragFlags k
  ipHeader := d.header k
  payload := (d.payload.drop (1480 * k)).take (fragPayload (d.payload.length - 1480 * k))

variable {d} {k : Nat}

lemma flagsOff_spec (hk : k ≤ 2) (len n : Nat) :
    (flagsOff (1480 * k) len n &&& 0x1FFF) * 8 = 1480 * k ∧
      (flagsOff (1480 * k) len n &&& 0x2000 ≠ 0 ↔ 1480 * k + len < n) ∧
      flagsOff (1480 * k) len n < 65536 := by
  unfold flagsOff
  interval_cases k <;> split_ifs with hmore <;> simp <;> omega

lemma lt_fragCount : k < fragCount d.payload ↔ 1480 * k < d.payload.length := by
  unfold fragCount
  omega

section

variable (hmax : d.payload.length ≤ 4440) (hk : k < fragCount d.payload)

include hk

lemma length_fragment_payload : 1480 * k + (d.fragment k).payload.length = d.fragEnd k := by
  have hlt := lt_fragCount.1 hk
  simp only [fragment, fragEnd, List.length_take, List.length_drop, fragPayload_eq]
  omega

lemma fragment_payload_getElem {j : Nat} (hj : 1480 * k + j < d.fragEnd k) :
    (d.fragment k).payload[j]? = d.payload[1480 * k + j]? := by
  have hlen := length_fragment_payload hk
  simp only [fragment, List.length_take] at hlen
  have hlt : j < fragPayload (d.payload.length - 1480 * k) := by omega
  simp [fragment, List.getElem?_take_of_lt hlt]

include hmax

lemma le_two : k ≤ 2 := by
  unfold fragCount at hk
  omega

lemma fragment_fragOffset : (d.fragment k).fragOffset = 1480 * k :=
  (flagsOff_spec (le_two hmax hk) _ _).1

lemma fragment_moreFrags :
    (d.fragment k).moreFrags = true ↔ k + 1 < fragCount d.payload := by
  have hflags := (flagsOff_spec (le_two hmax hk) (fragPayload (d.payload.length - 1480 * k))
    d.payload.length).2.1
  have hmore : (d.fragment k).moreFrags = true ↔
      1480 * k + fragPayload (d.payload.length - 1480 * k) < d.payload.length := by
    rw [← hflags]
    exact decide_eq_true_iff
  rw [hmore, fragPayload_eq]
  unfold fragCount
  omega

end

lemma ipv4FragmentOf_fragmentFrame (s : Net) (dstMac : Mac) {dstIp : UInt32} {protocol : UInt8}
    {payload : List UInt8} {ttl : UInt8} {ident : UInt16} (hmax : payload.length ≤ 4440)
    (hk : k < fragCount payload) :
    ipv4FragmentOf (fragmentFrame s dstMac dstIp protocol payload ttl ident (1480 * k)) =
      (Ipv4Outgoing.mk s.netIp dstIp protocol payload ttl ident).fragment k := by
  set d := Ipv4Outgoing.mk s.netIp dstIp protocol payload ttl ident with hd
  have hlen : ((payload.drop (1480 * k)).take (fragPayload (payload.length - 1480 * k))).length =
      fragPayload (payload.length - 1480 * k) := by
    simp only [List.length_take, List.length_drop, fragPayload_eq]
    omega
  have hflags := (flagsOff_spec (le_two (d := d) hmax hk) (fragPayload (payload.length - 1480 * k))
    payload.length).2.2
  refine ipv4FragmentOf_ipv4Frame ?_ (by rw [hlen]) hflags
  rw [hlen, fragPayload_eq]
  omega

end Ipv4Outgoing

/-! ### What has arrived -/

/-- The slot holds the fragments with indices in `R`, and nothing else of the datagram. -/
structure Ipv4ReassSlot.Holds (slot : Ipv4ReassSlot) (d : Ipv4Outgoing) (R : Set Nat) : Prop where
  first : slot.haveFirst = true ↔ 0 ∈ R
  header : 0 ∈ R → slot.header = d.header 0
  known : slot.totalKnown = true ↔ fragCount d.payload - 1 ∈ R
  total : fragCount d.payload - 1 ∈ R → slot.totalPayloadLen = d.payload.length
  present : ∀ block, ipv4ReassPresentGet slot block = true ↔
    ∃ k ∈ R, 185 * k ≤ block ∧ block < (d.fragEnd k + 7) / 8
  bytes : ∀ k ∈ R, ∀ j, 1480 * k ≤ j → j < d.fragEnd k →
    slot.payload.get j = d.payload.getD j 0

section

variable {d : Ipv4Outgoing} {slot : Ipv4ReassSlot} {R : Set Nat} {k : Nat} {f : Ipv4Fragment}

lemma Ipv4ReassSlot.Fresh.holds (h : slot.Fresh f) : slot.Holds d ∅ where
  first := by simp [h.haveFirst]
  header hmem := hmem.elim
  known := by simp [h.totalKnown]
  total hmem := hmem.elim
  present block := by simp [h.present block]
  bytes _ hmem := hmem.elim

/-- One more fragment, or one of them again. -/
lemma Ipv4ReassSlot.Holds.store (h : slot.Holds d R) (hmax : d.payload.length ≤ 4096)
    (hk : k < fragCount d.payload) (tick : UInt32) :
    (slot.store tick (d.fragment k)).Holds d (insert k R) := by
  have hmax' : d.payload.length ≤ 4440 := by omega
  have hlt := Ipv4Outgoing.lt_fragCount.1 hk
  have hoff := Ipv4Outgoing.fragment_fragOffset hmax' hk
  have hend := Ipv4Outgoing.length_fragment_payload hk
  have hmore := Ipv4Outgoing.fragment_moreFrags hmax' hk
  have hpos : 0 < (d.fragment k).payload.length := by
    unfold Ipv4Outgoing.fragEnd at hend
    omega
  have hlast : (d.fragment k).moreFrags = false ↔ fragCount d.payload - 1 = k := by
    rw [← Bool.not_eq_true, hmore]
    omega
  refine ⟨?_, fun hzero => ?_, ?_, fun hknown => ?_, fun block => ?_, fun k' hk' j hj hj' => ?_⟩
  · rw [store_haveFirst, hoff, Bool.or_eq_true, h.first, Set.mem_insert_iff, decide_eq_true_iff]
    refine or_congr ?_ Iff.rfl
    omega
  · rw [store_header, hoff]
    split_ifs with hk0
    · obtain rfl : k = 0 := by omega
      rfl
    · exact h.header (hzero.resolve_left (by omega))
  · rw [store_totalKnown, Bool.or_eq_true, h.known, Bool.not_eq_true', hlast, Set.mem_insert_iff]
  · rw [store_totalPayloadLen, hoff, hend]
    split_ifs with hnone
    · have hlastk : fragCount d.payload - 1 = k := hlast.1 (by simpa using hnone)
      unfold Ipv4Outgoing.fragEnd
      unfold fragCount at hlastk
      omega
    · refine h.total (hknown.resolve_left fun heq => hnone ?_)
      simpa using hlast.2 heq
  · rw [store_present hpos, h.present, hoff, hend]
    have hbound : ∀ k', (d.fragEnd k' + 7) / 8 ≤ 512 := by
      unfold Ipv4Outgoing.fragEnd
      omega
    constructor
    · rintro (⟨k', hk', hb⟩ | ⟨-, hb⟩)
      · exact ⟨k', Set.mem_insert_of_mem _ hk', hb⟩
      · exact ⟨k, Set.mem_insert _ _, by omega, hb.2⟩
    · rintro ⟨k', hk', hb⟩
      rcases hk' with rfl | hk'
      · have := hbound k'
        exact Or.inr ⟨by omega, by omega, hb.2⟩
      · exact Or.inl ⟨k', hk', hb⟩
  · rw [store_payload hpos, hoff]
    by_cases hin : 1480 * k ≤ j ∧ j < d.fragEnd k
    · obtain ⟨i, rfl⟩ := Nat.exists_eq_add_of_le hin.1
      have hi : i < (d.fragment k).payload.length := by omega
      have hbound : 1480 * k + i < 4096 := by
        have := hin.2
        unfold Ipv4Outgoing.fragEnd at this
        omega
      rw [Bytes.get_patch_of_mem _ _ _ _ hi hbound]
      have hbyte := Ipv4Outgoing.fragment_payload_getElem hk hin.2
      rw [List.getElem?_eq_getElem hi] at hbyte
      rw [List.getD_eq_getElem?_getD, ← hbyte]
      rfl
    · have hout : slot.payload.get j = d.payload.getD j 0 := by
        rcases hk' with rfl | hk'
        · exact absurd ⟨hj, hj'⟩ hin
        · exact h.bytes k' hk' j hj hj'
      rw [← hout]
      rcases lt_or_ge j (1480 * k) with hbefore | hafter
      · exact Bytes.get_patch_of_lt _ _ hbefore
      · exact Bytes.get_patch_of_ge _ _ (by omega)

lemma Ipv4ReassSlot.Holds.complete_iff (h : slot.Holds d R) (hpos : 0 < d.payload.length) :
    slot.Complete ↔ ∀ k < fragCount d.payload, k ∈ R := by
  have hcount : 0 < fragCount d.payload := by
    unfold fragCount
    omega
  constructor
  · rintro ⟨-, hknown, hblocks⟩ k hk
    have htotal := h.total (h.known.1 hknown)
    have hlt := Ipv4Outgoing.lt_fragCount.1 hk
    -- the first block of the fragment is there, and no other fragment has it
    obtain ⟨k', hk', hle, hend⟩ := (h.present (185 * k)).1 (hblocks (185 * k) (by omega))
    have heq : k' = k := by
      unfold Ipv4Outgoing.fragEnd at hend
      omega
    exact heq ▸ hk'
  · intro hall
    have hlast := hall (fragCount d.payload - 1) (by omega)
    refine ⟨h.first.2 (hall 0 hcount), h.known.2 hlast, fun block hblock => ?_⟩
    rw [h.total hlast] at hblock
    refine (h.present block).2 ⟨block / 185, hall _ ?_, by omega, ?_⟩
    · rw [Ipv4Outgoing.lt_fragCount]
      omega
    · unfold Ipv4Outgoing.fragEnd
      omega

lemma Ipv4ReassSlot.Holds.packet_eq (h : slot.Holds d R) (hpos : 0 < d.payload.length)
    (hall : ∀ k < fragCount d.payload, k ∈ R) :
    slot.packet =
      ipv4Header (20 + d.payload.length) d.ident 0 d.ttl d.protocol d.srcIp d.dstIp ++ d.payload := by
  have hcount : 0 < fragCount d.payload := by
    unfold fragCount
    omega
  have hheader := h.header (hall 0 hcount)
  have htotal := h.total (hall (fragCount d.payload - 1) (by omega))
  have hbytes : slot.payload.slice 0 d.payload.length = d.payload := by
    refine List.ext_getElem (by simp) fun j hj hj' => ?_
    have hk : j / 1480 < fragCount d.payload := by
      rw [Ipv4Outgoing.lt_fragCount]
      omega
    have hbyte := h.bytes (j / 1480) (hall _ hk) j (by omega)
      (by unfold Ipv4Outgoing.fragEnd; omega)
    rw [Bytes.getElem_slice, Nat.zero_add, hbyte, List.getD_eq_getElem?_getD,
      List.getElem?_eq_getElem hj']
    rfl
  unfold Ipv4ReassSlot.packet
  rw [htotal, hheader, hbytes]
  rfl

end

/-! ### Arrivals -/

/-- A fragment that reaches `ipv4_reassemble_packet`, and when. -/
structure Ipv4Arrival where
  time : Nat
  fragment : Ipv4Fragment

/-- The step as one of a machine; the clock is a 32-bit word. -/
def reassStep (r : Ipv4Reass) (a : Ipv4Arrival) : Ipv4Reass × Option (List UInt8) :=
  ipv4ReassemblePacket (UInt32.ofNat a.time) r a.fragment

/-- The fragments in `R` have arrived, the latest of them at `time`. -/
structure Ipv4Reass.Arrived (r : Ipv4Reass) (d : Ipv4Outgoing) (keys : Finset Ipv4Key) (R : Set Nat)
    (time : Option Nat) : Prop where
  within : r.Within keys
  indices : ∀ k ∈ R, k < fragCount d.payload
  none : time = none → R = ∅ ∧ r.get d.key = none
  some : ∀ t ∈ time, ∃ slot, r.get d.key = some slot ∧ slot.Holds d R ∧
    slot.lastTick = UInt32.ofNat t

/-- The arrival is not too late for the datagram. -/
def InTime (time : Option Nat) (a : Ipv4Arrival) : Prop :=
  ∀ t ∈ time, t ≤ a.time ∧ a.time ≤ t + ipv4ReassTimeoutTicks

lemma toNat_tick_sub {t t' : Nat} (h : t ≤ t') (hgap : t' ≤ t + ipv4ReassTimeoutTicks) :
    (UInt32.ofNat t' - UInt32.ofNat t).toNat ≤ ipv4ReassTimeoutTicks := by
  obtain ⟨d, rfl⟩ := Nat.exists_eq_add_of_le h
  have hd : d ≤ 300 := by
    unfold ipv4ReassTimeoutTicks at hgap
    omega
  have hsub : UInt32.ofNat (t + d) - UInt32.ofNat t = UInt32.ofNat d := by
    rw [UInt32.ofNat_add, UInt32.add_comm, UInt32.add_sub_cancel]
  rw [hsub, UInt32.toNat_ofNat']
  exact (Nat.mod_le _ _).trans hd

section

variable {r : Ipv4Reass} {d : Ipv4Outgoing} {keys : Finset Ipv4Key} {R : Set Nat}
  {time : Option Nat} {a : Ipv4Arrival} {k : Nat}

lemma Ipv4Outgoing.fragment_key : (d.fragment k).key = d.key := rfl

lemma Ipv4Outgoing.fragment_accepted (hmax : d.payload.length ≤ 4096)
    (hk : k < fragCount d.payload) : (d.fragment k).Accepted := by
  have hoff := Ipv4Outgoing.fragment_fragOffset (by omega : d.payload.length ≤ 4440) hk
  have hend := Ipv4Outgoing.length_fragment_payload hk
  refine ⟨le_of_eq length_ipv4Header.symm, ?_, ?_⟩
  · exact (le_of_eq length_ipv4Header).trans (by decide)
  · rw [hoff, hend]
    unfold Ipv4Outgoing.fragEnd ipv4ReassMaxPayload
    omega

lemma Ipv4Reass.Arrived.gc (h : r.Arrived d keys R time) (hin : InTime time a) :
    (time = Option.none → (ipv4ReassemblyGc (UInt32.ofNat a.time) r).get d.key = Option.none) ∧
      ∀ t ∈ time, ∃ slot, (ipv4ReassemblyGc (UInt32.ofNat a.time) r).get d.key = Option.some slot ∧
        slot.Holds d R ∧ slot.lastTick = UInt32.ofNat t := by
  refine ⟨fun hnone => Ipv4Reass.get_gc_of_none (h.none hnone).2, fun t ht => ?_⟩
  obtain ⟨slot, hslot, hholds, htick⟩ := h.some t ht
  refine ⟨slot, h.within.get_gc_of_recent hslot ?_, hholds, htick⟩
  rw [htick]
  exact toNat_tick_sub (hin t ht).1 (hin t ht).2

lemma Ipv4Reass.Arrived.step_other (h : r.Arrived d keys R time) (hcard : keys.card ≤ 4)
    (hkey : a.fragment.key ∈ keys) (hne : d.key ≠ a.fragment.key) (hin : InTime time a) :
    (reassStep r a).1.Arrived d keys R time := by
  by_cases haccepted : a.fragment.Accepted
  · obtain ⟨-, -, -, hwithin, -, hother⟩ :=
      reassemble_step h.within hcard hkey haccepted (UInt32.ofNat a.time)
    obtain ⟨hnone, hsome⟩ := h.gc hin
    refine ⟨hwithin, h.indices, fun ht => ⟨(h.none ht).1, ?_⟩, fun t ht => ?_⟩
    · exact (hother d.key hne).trans (hnone ht)
    · obtain ⟨slot, hslot, hrest⟩ := hsome t ht
      exact ⟨slot, (hother d.key hne).trans hslot, hrest⟩
  · have hsame : reassStep r a = (r, Option.none) := reassemble_of_not_accepted haccepted _
    rw [hsame]
    exact h

/-- A fragment of the datagram is added; when it is the last that was missing the datagram is put
together. -/
lemma Ipv4Reass.Arrived.step_own (h : r.Arrived d keys R time) (hcard : keys.card ≤ 4)
    (hpos : 0 < d.payload.length) (hmax : d.payload.length ≤ 4096) (hkey : d.key ∈ keys)
    (hk : k < fragCount d.payload) (ha : a.fragment = d.fragment k) (hin : InTime time a) :
    ((∀ i < fragCount d.payload, i ∈ insert k R) → (reassStep r a).2 = Option.some
        (ipv4Header (20 + d.payload.length) d.ident 0 d.ttl d.protocol d.srcIp d.dstIp ++
          d.payload)) ∧
      ((∃ i < fragCount d.payload, i ∉ insert k R) → (reassStep r a).2 = Option.none ∧
        (reassStep r a).1.Arrived d keys (insert k R) (Option.some a.time)) := by
  have hkeyA : a.fragment.key = d.key := by rw [ha, Ipv4Outgoing.fragment_key]
  obtain ⟨slot, hslot, hout, hwithin, hget, -⟩ := reassemble_step h.within hcard (hkeyA ▸ hkey)
    (ha ▸ Ipv4Outgoing.fragment_accepted hmax hk) (UInt32.ofNat a.time)
  rw [hkeyA] at hslot hget
  obtain ⟨hnone, hsome⟩ := h.gc hin
  have hholds : slot.Holds d R := by
    cases time with
    | none =>
      have hfresh := hslot.resolve_left fun hold => by simp [hnone rfl] at hold
      rw [(h.none rfl).1]
      exact hfresh.2.holds
    | some t =>
      obtain ⟨slot', hslot', hholds', -⟩ := hsome t rfl
      rcases hslot with hold | ⟨hno, -⟩
      · obtain rfl : slot' = slot := by simpa [hslot'] using hold
        exact hholds'
      · simp [hslot'] at hno
  have hstored := hholds.store hmax hk (UInt32.ofNat a.time)
  have hindices : ∀ i ∈ insert k R, i < fragCount d.payload := by
    rintro i (rfl | hi)
    · exact hk
    · exact h.indices i hi
  have hcomplete := hstored.complete_iff hpos
  rw [← ha] at hstored hcomplete
  refine ⟨fun hall => ?_, fun ⟨i, hi, hmissing⟩ => ?_⟩
  · rw [if_pos (hcomplete.2 hall), hstored.packet_eq hpos hall] at hout
    exact hout
  · have hnot : ¬ (slot.store (UInt32.ofNat a.time) a.fragment).Complete :=
      fun hall => hmissing (hcomplete.1 hall i hi)
    rw [if_neg hnot] at hout hget
    refine ⟨hout, hwithin, hindices, fun hno => by simp at hno, fun t ht => ?_⟩
    obtain rfl : a.time = t := by simpa using ht
    exact ⟨_, hget, hstored, store_lastTick⟩

lemma Ipv4Outgoing.fragment_injective (hmax : d.payload.length ≤ 4096) {i j : Nat}
    (hi : i < fragCount d.payload) (hj : j < fragCount d.payload)
    (h : d.fragment i = d.fragment j) : i = j := by
  have hmax' : d.payload.length ≤ 4440 := by omega
  have hoff := congrArg Ipv4Fragment.fragOffset h
  rw [fragment_fragOffset hmax' hi, fragment_fragOffset hmax' hj] at hoff
  omega

/-! ### Runs -/

/-- Each arrival is in time, counted from the latest fragment of the datagram before it. -/
def Timely (key : Ipv4Key) : Option Nat → List Ipv4Arrival → Prop
  | _, [] => True
  | time, a :: as =>
    InTime time a ∧ Timely key (if a.fragment.key = key then Option.some a.time else time) as

/-- The times at which fragments of a datagram arrive. -/
def timesOf (key : Ipv4Key) (as : List Ipv4Arrival) : List Nat :=
  (as.filter fun a => a.fragment.key = key).map Ipv4Arrival.time

/-- When no two fragments of the datagram are too far apart, nothing up to the last of them is late.
-/
lemma timely_of_gaps {key : Ipv4Key} {as : List Ipv4Arrival} {time : Option Nat}
    (hsorted : (as.map Ipv4Arrival.time).Pairwise (· ≤ ·))
    (hafter : ∀ t ∈ time, ∀ a ∈ as, t ≤ a.time)
    (hgaps : (time.toList ++ timesOf key as).IsChain fun t t' => t' ≤ t + ipv4ReassTimeoutTicks)
    (hlast : ∀ a ∈ as.getLast?, a.fragment.key = key) : Timely key time as := by
  induction as generalizing time with
  | nil => trivial
  | cons a as ih =>
    rw [List.map_cons, List.pairwise_cons] at hsorted
    have hlast' : ∀ a' ∈ as.getLast?, a'.fragment.key = key := by
      intro a' ha'
      refine hlast a' ?_
      rw [List.getLast?_cons]
      simp [Option.mem_def.1 ha']
    by_cases hown : a.fragment.key = key
    · have htimes : timesOf key (a :: as) = a.time :: timesOf key as := by simp [timesOf, hown]
      rw [htimes] at hgaps
      refine ⟨fun t ht => ⟨hafter t ht a (List.mem_cons_self ..), ?_⟩, ?_⟩
      · obtain rfl : time = Option.some t := ht
        exact (List.isChain_cons_cons.1 hgaps).1
      · rw [if_pos hown]
        refine ih hsorted.2 (fun t ht a' ha' => ?_) ?_ hlast'
        · obtain rfl : a.time = t := by simpa using ht
          exact hsorted.1 a'.time (List.mem_map_of_mem ha')
        · exact hgaps.right_of_append
    · have htimes : timesOf key (a :: as) = timesOf key as := by simp [timesOf, hown]
      rw [htimes] at hgaps
      refine ⟨fun t ht => ⟨hafter t ht a (List.mem_cons_self ..), ?_⟩, ?_⟩
      · obtain rfl : time = Option.some t := ht
        -- the next fragment of the datagram comes after this arrival, and soon enough
        cases hnext : timesOf key as with
        | nil =>
          have hne : as ≠ [] := by
            rintro rfl
            exact hown (hlast a rfl)
          have hmem := List.getLast_mem hne
          have hkey := hlast' _ (List.getLast?_eq_getLast_of_ne_nil hne)
          have hin : (as.getLast hne).time ∈ timesOf key as :=
            List.mem_map_of_mem (List.mem_filter.2 ⟨hmem, by simpa using hkey⟩)
          simp [hnext] at hin
        | cons t' ts =>
          rw [hnext] at hgaps
          have hgap := (List.isChain_cons_cons.1 hgaps).1
          have hin : t' ∈ timesOf key as := by simp [hnext]
          obtain ⟨a', ha', rfl⟩ := List.mem_map.1 hin
          have hle := hsorted.1 a'.time (List.mem_map_of_mem (List.mem_filter.1 ha').1)
          exact hle.trans hgap
      · rw [if_neg hown]
        exact ih hsorted.2 (fun t ht a' ha' => hafter t ht a' (List.mem_cons_of_mem _ ha')) hgaps
          hlast'

/-- Until the last fragment that is missing arrives, none of the datagram's calls gives a packet. -/
lemma Ipv4Reass.Arrived.run (h : r.Arrived d keys R time) (hcard : keys.card ≤ 4)
    (hpos : 0 < d.payload.length) (hmax : d.payload.length ≤ 4096) (hkey : d.key ∈ keys)
    {as rest : List Ipv4Arrival}
    (has : ∀ a ∈ as, (∃ k < fragCount d.payload, a.fragment = d.fragment k) ∨
      a.fragment.key ∈ keys ∧ d.key ≠ a.fragment.key)
    (htimely : Timely d.key time (as ++ rest)) {i : Nat} (hi : i < fragCount d.payload)
    (hmissing : i ∉ R) (hnever : ∀ a ∈ as, a.fragment ≠ d.fragment i) :
    (∀ p a, p ++ [a] <+: as → a.fragment.key = d.key →
        (reassStep (Machine.run reassStep r p) a).2 = Option.none) ∧
      ∃ R' time', (Machine.run reassStep r as).Arrived d keys R' time' ∧
        Timely d.key time' rest ∧ (∀ k ∈ R, k ∈ R') ∧
        ∀ a ∈ as, ∀ k < fragCount d.payload, a.fragment = d.fragment k → k ∈ R' := by
  induction as generalizing r R time with
  | nil =>
    refine ⟨fun p a hp => absurd hp (by simp), R, time, h, htimely, fun k hk => hk, ?_⟩
    exact fun a ha => absurd ha List.not_mem_nil
  | cons a as ih =>
    obtain ⟨hin, htimely⟩ := htimely
    have has' := fun a' ha' => has a' (List.mem_cons_of_mem a ha')
    have hnever' := fun a' ha' => hnever a' (List.mem_cons_of_mem a ha')
    rcases has a (List.mem_cons_self ..) with ⟨k, hk, ha⟩ | ⟨hother, hne⟩
    · have hki : i ∉ insert k R := by
        rintro (rfl | hmem)
        · exact hnever a (List.mem_cons_self ..) ha
        · exact hmissing hmem
      obtain ⟨hout, harrived⟩ :=
        (h.step_own hcard hpos hmax hkey hk ha hin).2 ⟨i, hi, hki⟩
      have hown : a.fragment.key = d.key := by rw [ha, Ipv4Outgoing.fragment_key]
      rw [if_pos hown] at htimely
      obtain ⟨hnone, R', time', hrun, hrest, hsub, hall⟩ := ih harrived has' htimely hki hnever'
      refine ⟨fun p a' hp hkey' => ?_, R', time', hrun, hrest, ?_, fun a' ha' k' hk' hfrag => ?_⟩
      · cases p with
        | nil =>
          obtain rfl : a' = a := (List.cons_prefix_cons.1 hp).1
          exact hout
        | cons b p =>
          obtain ⟨rfl, hp'⟩ := List.cons_prefix_cons.1 hp
          exact hnone p a' hp' hkey'
      · exact fun k' hk' => hsub k' (Set.mem_insert_of_mem _ hk')
      · rcases List.mem_cons.1 ha' with rfl | hmem
        · obtain rfl := Ipv4Outgoing.fragment_injective hmax hk' hk (hfrag.symm.trans ha)
          exact hsub _ (Set.mem_insert _ _)
        · exact hall a' hmem k' hk' hfrag
    · have harrived := h.step_other hcard hother hne hin
      rw [if_neg hne.symm] at htimely
      obtain ⟨hnone, R', time', hrun, hrest, hsub, hall⟩ := ih harrived has' htimely hmissing hnever'
      refine ⟨fun p a' hp hkey' => ?_, R', time', hrun, hrest, hsub, fun a' ha' k' hk' hfrag => ?_⟩
      · cases p with
        | nil =>
          obtain rfl : a' = a := (List.cons_prefix_cons.1 hp).1
          exact absurd hkey'.symm hne
        | cons b p =>
          obtain ⟨rfl, hp'⟩ := List.cons_prefix_cons.1 hp
          exact hnone p a' hp' hkey'
      · rcases List.mem_cons.1 ha' with rfl | hmem
        · exact absurd (by rw [hfrag, Ipv4Outgoing.fragment_key]) hne
        · exact hall a' hmem k' hk' hfrag

end

/-! ### Sending and receiving -/

/-- The IPv4 frames that `net_send_ipv4_raw` gives to the card; before them it may ask for a
hardware address. -/
def ipv4Sent (s : Net) (dstIp : UInt32) (protocol : UInt8) (payload : List UInt8) (ttl : UInt8)
    (ident : UInt16) : List (List UInt8) :=
  (netSendIpv4Raw { s with tx := [] } dstIp protocol payload ttl ident).1.tx.filter fun frame =>
    readBe16 frame 12 = ethTypeIpv4

section

variable {s : Net} {dstIp : UInt32} {protocol : UInt8} {payload : List UInt8} {ttl : UInt8}
  {ident : UInt16}

lemma netSendIpv4Raw_eq (hready : s.netReady = true) (hmax : payload.length ≤ 65515) :
    ∃ (mac : Mac) (arp : List (List UInt8)), (∀ frame ∈ arp, readBe16 frame 12 ≠ ethTypeIpv4) ∧
      netSendIpv4Raw s dstIp protocol payload ttl ident =
        if payload.length ≤ 1480 then
          rtl8139SendFrame (s.send arp) (ipv4Frame mac s.rtlMac
            (ipv4Header (20 + payload.length) ident 0 ttl protocol s.netIp dstIp) payload)
        else sendFragments (s.send arp) mac dstIp protocol payload ttl ident 0 := by
  have hwhole : (20 + payload.length) % 65536 ≤ ipv4EthMtu ↔ payload.length ≤ 1480 := by
    unfold ipv4EthMtu
    omega
  unfold netSendIpv4Raw
  simp only [hready, Bool.not_true, Bool.false_eq_true, if_false, hwhole]
  by_cases hbroadcast : dstIp ≠ 0xFFFFFFFF
  · rw [if_pos hbroadcast]
    cases arpCacheLookup s (netRouteNextHop s dstIp) with
    | some mac => exact ⟨mac, [], by simp, by simp⟩
    | none =>
      obtain ⟨arp, harp, hsent⟩ := netSendArpRequest_tx s (netRouteNextHop s dstIp)
      exact ⟨broadcastMac, arp, harp, by rw [hsent]⟩
  · rw [if_neg hbroadcast]
    exact ⟨broadcastMac, [], by simp, by simp⟩

lemma sendFragments_no_card (hbase : s.rtlIobase = 0) (mac : Mac) (offset : Nat) :
    (sendFragments s mac dstIp protocol payload ttl ident offset).1 = s := by
  rw [sendFragments]
  split_ifs
  · rfl
  · simp [rtl8139SendFrame, hbase]
  · rfl

lemma sendFragments_tx (hready : s.netReady = true) (hbase : s.rtlIobase ≠ 0) (mac : Mac) :
    sendFragments s mac dstIp protocol payload ttl ident 0 =
      (s.send (fragmentFrames s mac dstIp protocol payload ttl ident), true) := by
  have hsent : sendFragments s mac dstIp protocol payload ttl ident (1480 * 0) = _ :=
    sendFragments_eq hready hbase (Nat.zero_le _)
  rw [hsent, fragmentFrames, Nat.sub_zero, List.range_eq_range']

/-- The fragments that the receiver sees are those of the datagram, if the card is there. -/
lemma ipv4Sent_fragments (hlong : 1480 < payload.length) (hmax : payload.length ≤ 4440) :
    (ipv4Sent s dstIp protocol payload ttl ident).map ipv4FragmentOf =
      if s.netReady = true ∧ s.rtlIobase ≠ 0 then
        (List.range (fragCount payload)).map
          (Ipv4Outgoing.mk s.netIp dstIp protocol payload ttl ident).fragment
      else [] := by
  set idle : Net := { s with tx := [] } with hidle
  unfold ipv4Sent
  by_cases hready : s.netReady = true
  · obtain ⟨mac, arp, harp, hraw⟩ : ∃ (mac : Mac) (arp : List (List UInt8)),
        (∀ frame ∈ arp, readBe16 frame 12 ≠ ethTypeIpv4) ∧
          netSendIpv4Raw idle dstIp protocol payload ttl ident =
            sendFragments (idle.send arp) mac dstIp protocol payload ttl ident 0 := by
      obtain ⟨mac, arp, harp, hraw⟩ : ∃ (mac : Mac) (arp : List (List UInt8)), _ ∧
          netSendIpv4Raw idle dstIp protocol payload ttl ident = _ :=
        netSendIpv4Raw_eq hready (by omega)
      rw [if_neg (by omega)] at hraw
      exact ⟨mac, arp, harp, hraw⟩
    have harp' : arp.filter (fun frame => readBe16 frame 12 = ethTypeIpv4) = [] :=
      List.filter_eq_nil_iff.2 fun frame hframe => by simpa using harp frame hframe
    rw [← hidle, hraw]
    by_cases hbase : s.rtlIobase = 0
    · rw [sendFragments_no_card (s := idle.send arp) hbase]
      simpa [Net.send, hidle, hbase] using harp'
    · have htx : (sendFragments (idle.send arp) mac dstIp protocol payload ttl ident 0).1.tx =
          arp ++ fragmentFrames (idle.send arp) mac dstIp protocol payload ttl ident := by
        rw [sendFragments_tx (s := idle.send arp) hready hbase]
        rfl
      have hframes : (fragmentFrames (idle.send arp) mac dstIp protocol payload ttl ident).filter
          (fun frame => readBe16 frame 12 = ethTypeIpv4) =
          fragmentFrames (idle.send arp) mac dstIp protocol payload ttl ident := by
        refine List.filter_eq_self.2 fun frame hframe => ?_
        obtain ⟨k, -, rfl⟩ := List.mem_map.1 hframe
        exact decide_eq_true (ipv4Frame_ethType _ _ _ _)
      rw [htx, List.filter_append, harp', hframes, List.nil_append, if_pos ⟨hready, hbase⟩,
        fragmentFrames, List.map_map]
      refine List.map_congr_left fun k hk => ?_
      exact Ipv4Outgoing.ipv4FragmentOf_fragmentFrame _ mac hmax (List.mem_range.1 hk)
  · simp [netSendIpv4Raw, hready]

end

/-- However the fragments of a payload arrive, in whatever order and how often, with fragments of
three other datagrams between them: the payload comes back with the last fragment that is missing,
and not before. -/
theorem ipv4Fragments_reassemble {s : Net} {dstIp : UInt32} {protocol : UInt8}
    {payload : List UInt8} {ttl : UInt8} {ident : UInt16} (hlong : 1481 ≤ payload.length)
    (hmax : payload.length ≤ 4096) {others : Finset Ipv4Key} (hcard : others.card ≤ 3)
    (hnew : (s.netIp, dstIp, ident, protocol) ∉ others) {r : Ipv4Reass} (hr : r.Within others)
    {as : List Ipv4Arrival} {last : Ipv4Arrival}
    (harrive : ∀ a ∈ as ++ [last],
      a.fragment ∈ (ipv4Sent s dstIp protocol payload ttl ident).map ipv4FragmentOf ∨
        a.fragment.key ∈ others)
    (hall : ∀ f ∈ (ipv4Sent s dstIp protocol payload ttl ident).map ipv4FragmentOf,
      f ∈ (as ++ [last]).map Ipv4Arrival.fragment)
    (hlast : last.fragment ∈ (ipv4Sent s dstIp protocol payload ttl ident).map ipv4FragmentOf)
    (hmissing : last.fragment ∉ as.map Ipv4Arrival.fragment)
    (hsorted : ((as ++ [last]).map Ipv4Arrival.time).Pairwise (· ≤ ·))
    (hgaps : (timesOf (s.netIp, dstIp, ident, protocol) (as ++ [last])).IsChain
      fun t t' => t' ≤ t + ipv4ReassTimeoutTicks) :
    (∀ p a, p ++ [a] <+: as →
        a.fragment ∈ (ipv4Sent s dstIp protocol payload ttl ident).map ipv4FragmentOf →
        (reassStep (Machine.run reassStep r p) a).2 = none) ∧
      ∃ packet, (reassStep (Machine.run reassStep r as) last).2 = some packet ∧
        packet.drop 20 = payload ∧ readBe16 packet 2 = packet.length ∧ readBe16 packet 6 = 0 ∧
        internetChecksum (packet.take 20) = 0 := by
  set d := Ipv4Outgoing.mk s.netIp dstIp protocol payload ttl ident with hd
  have hkey : d.key = (s.netIp, dstIp, ident, protocol) := rfl
  have hpos : 0 < d.payload.length := Nat.lt_of_lt_of_le (by decide) hlong
  rw [ipv4Sent_fragments (by omega) (by omega)] at harrive hall hlast ⊢
  split_ifs at harrive hall hlast with hcard'
  · rw [if_pos hcard']
    have hown : ∀ f ∈ (List.range (fragCount payload)).map d.fragment,
        ∃ k < fragCount payload, f = d.fragment k := by
      intro f hf
      obtain ⟨k, hk, rfl⟩ := List.mem_map.1 hf
      exact ⟨k, List.mem_range.1 hk, rfl⟩
    have hmem : d.key ∈ insert d.key others := Finset.mem_insert_self _ _
    have hkeys : (insert d.key others).card ≤ 4 := (Finset.card_insert_le _ _).trans (by omega)
    have hstart : r.Arrived d (insert d.key others) ∅ none := by
      refine ⟨hr.mono (Finset.subset_insert _ _), fun k hk => hk.elim, fun _ => ⟨rfl, ?_⟩,
        fun t ht => by simp at ht⟩
      exact Ipv4Reass.get_eq_none.2 fun i hi hi' => hnew (hkey ▸ hi' ▸ hr.mem i hi)
    have has : ∀ a ∈ as, (∃ k < fragCount payload, a.fragment = d.fragment k) ∨
        a.fragment.key ∈ insert d.key others ∧ d.key ≠ a.fragment.key := by
      intro a ha
      rcases harrive a (List.mem_append_left _ ha) with hf | hf
      · exact Or.inl (hown _ hf)
      · refine Or.inr ⟨Finset.mem_insert_of_mem hf, fun heq => hnew ?_⟩
        rwa [← hkey, heq]
    obtain ⟨k, hk, hlastk⟩ := hown _ hlast
    have htimely : Timely d.key none (as ++ [last]) := by
      refine timely_of_gaps hsorted (fun t ht => by simp at ht) hgaps ?_
      intro a ha
      rw [List.getLast?_append, List.getLast?_singleton, Option.some_or, Option.mem_some] at ha
      rw [← ha, hlastk, Ipv4Outgoing.fragment_key]
    have hnever : ∀ a ∈ as, a.fragment ≠ d.fragment k := fun a ha heq =>
      hmissing (by rw [hlastk, ← heq]; exact List.mem_map_of_mem ha)
    obtain ⟨hnone, R, time, hrun, hrest, -, hreceived⟩ :=
      hstart.run hkeys hpos hmax hmem has htimely hk (Set.notMem_empty k) hnever
    refine ⟨fun p a hp ha => hnone p a hp ?_, ?_⟩
    · obtain ⟨k', -, hfrag⟩ := hown _ ha
      rw [hfrag, Ipv4Outgoing.fragment_key]
    · have hcomplete : ∀ i < fragCount payload, i ∈ insert k R := by
        intro i hi
        have hf := hall (d.fragment i) (List.mem_map.2 ⟨i, List.mem_range.2 hi, rfl⟩)
        obtain ⟨a, ha, hfrag⟩ := List.mem_map.1 hf
        rcases List.mem_append.1 ha with hmem' | hmem'
        · exact Set.mem_insert_of_mem _ (hreceived a hmem' i hi hfrag)
        · rw [List.mem_singleton.1 hmem', hlastk] at hfrag
          exact Ipv4Outgoing.fragment_injective hmax hk hi hfrag ▸ Set.mem_insert _ _
      have hout := (hrun.step_own hkeys hpos hmax hmem hk hlastk hrest.1).1 hcomplete
      have htotal : 20 + d.payload.length < 65536 := by
        change 20 + payload.length < 65536
        omega
      refine ⟨_, hout, ?_, ?_, ?_, ?_⟩
      · exact List.drop_left' length_ipv4Header
      · refine (ipv4HeaderWith_totalLen htotal).trans ?_
        rw [List.length_append, length_ipv4Header]
      · exact ipv4HeaderWith_flags (by decide)
      · rw [List.take_left' length_ipv4Header, internetChecksum_ipv4Header]
  · exact absurd hlast (by simp)

/-- Two fragments arrive in the other order, one of them twice, and one of another datagram between
them. -/
theorem ipv4Fragments_reassemble_swapped :
    let s := Net.booted 0x0A00020F
    let d := Ipv4Outgoing.mk s.netIp 0x0A000210 ipProtoUdp (List.replicate 1481 7) 64 1
    let other := Ipv4Outgoing.mk 0x0A000210 s.netIp ipProtoTcp (List.replicate 1481 9) 64 2
    ∃ packet, (reassStep (Machine.run reassStep s.ipv4Reass
        [⟨10, d.fragment 1⟩, ⟨12, other.fragment 1⟩, ⟨14, d.fragment 1⟩])
        ⟨20, d.fragment 0⟩).2 = some packet ∧ packet.drop 20 = List.replicate 1481 7 := by
  intro s d other
  have hlen : (List.replicate 1481 (7 : UInt8)).length = 1481 := List.length_replicate
  have hcount : fragCount (List.replicate 1481 (7 : UInt8)) = 2 := by rw [fragCount, hlen]
  have hsent : (ipv4Sent s 0x0A000210 ipProtoUdp (List.replicate 1481 7) 64 1).map
      ipv4FragmentOf = [d.fragment 0, d.fragment 1] := by
    rw [ipv4Sent_fragments (by rw [hlen]; decide) (by rw [hlen]; decide), hcount]
    rfl
  have hne : d.fragment 0 ≠ d.fragment 1 := fun h => absurd
    (Ipv4Outgoing.fragment_injective (by rw [hlen]; decide) (by rw [hcount]; decide)
      (by rw [hcount]; decide) h) (by decide)
  have hkeys : d.key ≠ other.key := by decide
  have hother : other.fragment 1 ≠ d.fragment 0 := fun h =>
    hkeys (congrArg Ipv4Fragment.key h).symm
  have hempty : s.ipv4Reass.Within {other.key} := Ipv4Reass.within_empty (fun _ => rfl) _
  let as : List Ipv4Arrival := [⟨10, d.fragment 1⟩, ⟨12, other.fragment 1⟩, ⟨14, d.fragment 1⟩]
  let last : Ipv4Arrival := ⟨20, d.fragment 0⟩
  let sent := (ipv4Sent s 0x0A000210 ipProtoUdp (List.replicate 1481 7) 64 1).map ipv4FragmentOf
  have harrive : ∀ a ∈ as ++ [last],
      a.fragment ∈ sent ∨ a.fragment.key ∈ ({other.key} : Finset Ipv4Key) := by
    simp only [sent, hsent]
    simp [as, last, Ipv4Outgoing.fragment_key]
  have hall : ∀ f ∈ sent, f ∈ (as ++ [last]).map Ipv4Arrival.fragment := by
    simp [sent, hsent, as, last]
  have hlast : last.fragment ∈ sent := by simp [sent, hsent, last]
  have hmissing : last.fragment ∉ as.map Ipv4Arrival.fragment := by
    simpa [as, last] using ⟨hne, hother.symm, hne⟩
  have hsorted : ((as ++ [last]).map Ipv4Arrival.time).Pairwise (· ≤ ·) := by simp [as, last]
  have hgaps : (timesOf d.key (as ++ [last])).IsChain
      fun t t' => t' ≤ t + ipv4ReassTimeoutTicks := by
    have htimes : timesOf d.key (as ++ [last]) = [10, 14, 20] := by rfl
    rw [htimes]
    decide
  obtain ⟨-, packet, hpacket, hpayload, -⟩ := ipv4Fragments_reassemble (le_of_eq hlen.symm)
    (by rw [hlen]; decide) (by simp) (Finset.mem_singleton.not.2 hkeys) hempty harrive hall hlast
    hmissing hsorted hgaps
  exact ⟨packet, hpacket, hpayload⟩

end NeuroSpark
