import NeuroSpark.Net.Reassembly
import NeuroSpark.Net.Udp

/-!
# What is sent by UDP, and what arrives

The sender takes payloads of up to 4096 bytes, the queue of a bound port datagrams of up to 1200. In
between they may be split and put together again. A datagram that the queue has room for arrives as
it was sent; a longer one is dropped after it was sent.
-/

namespace NeuroSpark

open Network

/-! ### Queues -/

/-- The datagrams that wait at a port. -/
def udpQueued (s : Net) (port : UInt16) : List UdpPacket :=
  match udpFindBinding s port with
  | none => []
  | some i => (s.udpBindings i).queue.toList

section

variable {s : Net} {port : UInt16} {i : Fin 16} {packet : UdpPacket}

lemma udpFindBinding_congr {s' : Net}
    (h : ∀ i, (s'.udpBindings i).used = (s.udpBindings i).used ∧
      (s'.udpBindings i).port = (s.udpBindings i).port) (port : UInt16) :
    udpFindBinding s' port = udpFindBinding s port := by
  unfold udpFindBinding
  simp only [h]

lemma udpFindBinding_setBinding {b : UdpBinding} (hused : b.used = (s.udpBindings i).used)
    (hport : b.port = (s.udpBindings i).port) (port : UInt16) :
    udpFindBinding (s.setBinding i b) port = udpFindBinding s port := by
  refine udpFindBinding_congr (fun j => ?_) port
  by_cases hji : j = i
  · subst hji
    simp [Net.setBinding, hused, hport]
  · simp [Net.setBinding, hji]

lemma udpQueued_setBinding (hi : udpFindBinding s port = some i) {b : UdpBinding}
    (hused : b.used = (s.udpBindings i).used) (hport : b.port = (s.udpBindings i).port) :
    udpQueued (s.setBinding i b) port = b.queue.toList := by
  unfold udpQueued
  rw [udpFindBinding_setBinding hused hport, hi]
  simp [Net.setBinding]

lemma udpQueued_of_find (hi : udpFindBinding s port = some i) :
    udpQueued s port = (s.udpBindings i).queue.toList := by
  rw [udpQueued, hi]

lemma udpEnqueuePacket_queued (hi : udpFindBinding s port = some i)
    (hlen : packet.data.length ≤ udpMaxPayload) (hroom : (udpQueued s port).length < 16) :
    udpQueued (udpEnqueuePacket s port packet).1 port = udpQueued s port ++ [packet] := by
  rw [udpQueued_of_find hi, RingBuffer.length_toList] at hroom
  rw [udpEnqueuePacket, hi]
  simp only [if_neg (Nat.not_lt.2 hlen), dif_pos hroom]
  rw [udpQueued_setBinding hi (by rfl) (by rfl), udpQueued_of_find hi, RingBuffer.toList_push]

lemma udpEnqueuePacket_dropped (hlen : udpMaxPayload < packet.data.length) (port port' : UInt16) :
    udpQueued (udpEnqueuePacket s port packet).1 port' = udpQueued s port' := by
  unfold udpEnqueuePacket
  cases hi : udpFindBinding s port with
  | none => rfl
  | some i =>
    dsimp only
    rw [if_pos hlen]
    unfold udpQueued
    rw [udpFindBinding_setBinding (by rfl) (by rfl)]
    cases udpFindBinding s port' with
    | none => rfl
    | some j =>
      by_cases hji : j = i
      · subst hji
        simp [Net.setBinding]
      · simp [Net.setBinding, hji]

lemma udpEnqueuePacket_bindings (s : Net) (port : UInt16) (packet : UdpPacket) :
    ∃ bindings, (udpEnqueuePacket s port packet).1 = { s with udpBindings := bindings } := by
  unfold udpEnqueuePacket
  split
  · exact ⟨s.udpBindings, rfl⟩
  · dsimp only
    split_ifs <;> exact ⟨_, rfl⟩

lemma netUdpRecv_queued {maxLen : Nat} (hmax : 0 < maxLen) (s : Net) (port : UInt16) :
    (netUdpRecv s port maxLen).2 = (udpQueued s port).head?.map
        (fun pkt => { pkt with data := pkt.data.take maxLen }) ∧
      udpQueued (netUdpRecv s port maxLen).1 port = (udpQueued s port).tail := by
  unfold netUdpRecv
  cases hi : udpFindBinding s port with
  | none => simp [udpQueued, hi]
  | some i =>
    dsimp only
    rw [if_neg hmax.ne', udpQueued_of_find hi]
    split_ifs with hcount
    · have hpop := RingBuffer.toList_pop (s.udpBindings i).queue
        ((s.udpBindings i).queue.slots (s.udpBindings i).queue.head) hcount
      refine ⟨by rw [hpop]; rfl, ?_⟩
      rw [udpQueued_setBinding hi (by rfl) (by rfl), hpop]
      rfl
    · have hnil : (s.udpBindings i).queue.toList = [] :=
        (RingBuffer.toList_eq_nil_iff _).2 (Nat.eq_zero_of_not_pos hcount)
      rw [hnil, udpQueued_of_find hi, hnil]
      exact ⟨rfl, rfl⟩

lemma netUdpRecv_iterate {maxLen : Nat} (hmax : 0 < maxLen) (n : Nat) (s : Net) (port : UInt16) :
    udpQueued ((fun s => (netUdpRecv s port maxLen).1)^[n] s) port = (udpQueued s port).drop n := by
  induction n generalizing s with
  | zero => rfl
  | succ n ih =>
    rw [Function.iterate_succ_apply, ih, (netUdpRecv_queued hmax s port).2, List.drop_tail]

end

/-- No fault is injected. -/
structure Net.NoFaults (s : Net) : Prop where
  loss : s.netFaultLossPercent = 0
  reorder : s.netFaultReorderPercent = 0
  hold : s.udpReorderHold.valid = false

section

variable {s : Net}

lemma udpEnqueueWithFaults_of_noFaults (h : s.NoFaults) (port : UInt16) (packet : UdpPacket) :
    udpEnqueueWithFaults s port packet = udpEnqueuePacket s port packet := by
  unfold udpEnqueueWithFaults netFaultShouldApply
  simp [h.loss, h.reorder, h.hold]

/-- The handler of UDP drops a datagram whose payload is too long, whether its header is valid or
not. -/
lemma netHandleUdpDatagram_dropped (h : s.NoFaults) (srcIp dstIp : UInt32) {udpPacket : List UInt8}
    (hlen : 8 + udpMaxPayload < readBe16 udpPacket 4) (port : UInt16) :
    udpQueued (netHandleUdpDatagram s srcIp dstIp udpPacket) port = udpQueued s port := by
  unfold netHandleUdpDatagram
  split_ifs with hok
  · rw [udpEnqueueWithFaults_of_noFaults h]
    refine udpEnqueuePacket_dropped ?_ _ _
    obtain ⟨-, -, hle, -⟩ := hok
    simp only [List.length_take, List.length_drop]
    omega
  · rfl

end

/-- What UDP depends on is the same in both states. -/
structure Net.SameUdp (s s' : Net) : Prop where
  netIp : s'.netIp = s.netIp
  udpBindings : s'.udpBindings = s.udpBindings
  loss : s'.netFaultLossPercent = s.netFaultLossPercent
  reorder : s'.netFaultReorderPercent = s.netFaultReorderPercent
  hold : s'.udpReorderHold = s.udpReorderHold

section

variable {s s' s'' : Net}

lemma Net.SameUdp.refl (s : Net) : s.SameUdp s := ⟨rfl, rfl, rfl, rfl, rfl⟩

lemma Net.SameUdp.trans (h : s.SameUdp s') (h' : s'.SameUdp s'') : s.SameUdp s'' :=
  ⟨h'.netIp.trans h.netIp, h'.udpBindings.trans h.udpBindings, h'.loss.trans h.loss,
    h'.reorder.trans h.reorder, h'.hold.trans h.hold⟩

lemma Net.SameUdp.noFaults (h : s.SameUdp s') (hs : s.NoFaults) : s'.NoFaults :=
  ⟨h.loss.trans hs.loss, h.reorder.trans hs.reorder, by rw [h.hold, hs.hold]⟩

lemma Net.SameUdp.find (h : s.SameUdp s') (port : UInt16) :
    udpFindBinding s' port = udpFindBinding s port := by
  unfold udpFindBinding
  rw [h.udpBindings]

lemma Net.SameUdp.queued (h : s.SameUdp s') (port : UInt16) :
    udpQueued s' port = udpQueued s port := by
  unfold udpQueued
  rw [h.find, h.udpBindings]

lemma Net.SameUdp.forUs (h : s.SameUdp s') (ip : UInt32) : ForUs s' ip ↔ ForUs s ip := by
  unfold ForUs
  rw [h.netIp]

lemma rtl8139SendFrame_other (s : Net) (frame : List UInt8) :
    s.SameUdp (rtl8139SendFrame s frame).1 ∧
      (rtl8139SendFrame s frame).1.ipv4Reass = s.ipv4Reass := by
  unfold rtl8139SendFrame
  split_ifs <;> exact ⟨⟨rfl, rfl, rfl, rfl, rfl⟩, rfl⟩

lemma netHandleEthFrame_other {frame : List UInt8} (h : readBe16 frame 12 ≠ ethTypeIpv4) :
    s.SameUdp (netHandleEthFrame s frame) ∧
      (netHandleEthFrame s frame).ipv4Reass = s.ipv4Reass := by
  have harp : ∀ (ip : UInt32) (mac : Mac), s.SameUdp (arpCacheUpdate s ip mac) :=
    fun ip mac => ⟨rfl, rfl, rfl, rfl, rfl⟩
  unfold netHandleEthFrame
  split_ifs
  · exact ⟨Net.SameUdp.refl s, rfl⟩
  · unfold netHandleArpFrame
    split_ifs
    · exact ⟨Net.SameUdp.refl s, rfl⟩
    · exact ⟨Net.SameUdp.refl s, rfl⟩
    · dsimp only
      split_ifs
      · unfold netSendArpReply netSendArpPacket
        split_ifs
        · exact ⟨harp _ _, rfl⟩
        · obtain ⟨hsame, hreass⟩ := rtl8139SendFrame_other (arpCacheUpdate s (readBe32 frame 28) _) _
          exact ⟨(harp _ _).trans hsame, hreass⟩
      · exact ⟨harp _ _, rfl⟩
  · exact ⟨Net.SameUdp.refl s, rfl⟩

variable {dstMac rtlMac : Mac} {totalLen flags : Nat} {ident : UInt16} {ttl protocol : UInt8}
  {src dst : UInt32} {payload : List UInt8}

lemma netHandleIpv4Frame_whole (hlen : payload.length ≤ 1480) (hus : ForUs s dst) :
    ∃ s', s.SameUdp s' ∧ netHandleIpv4Frame s (ipv4Frame dstMac rtlMac
      (ipv4Header (20 + payload.length) ident 0 ttl protocol src dst) payload) =
        (s', some ⟨src, dst, protocol, payload⟩) := by
  have hok : Ipv4FrameOk (ipv4Frame dstMac rtlMac
      (ipv4Header (20 + payload.length) ident 0 ttl protocol src dst) payload) :=
    ipv4Frame_ok hlen rfl
  have hfragment : ipv4FragmentOf (ipv4Frame dstMac rtlMac
      (ipv4Header (20 + payload.length) ident 0 ttl protocol src dst) payload) =
      ⟨src, dst, protocol, ident, 0, ipv4Header (20 + payload.length) ident 0 ttl protocol src dst,
        payload⟩ := ipv4FragmentOf_ipv4Frame hlen rfl (by decide)
  have hshort := hok.1
  unfold netHandleIpv4Frame
  generalize ipv4Frame dstMac rtlMac (ipv4Header (20 + payload.length) ident 0 ttl protocol src dst)
    payload = frame at hok hfragment hshort ⊢
  simp only [if_neg (Nat.not_lt.2 hshort), not_true, hok, if_false, hfragment]
  set s₁ := arpCacheUpdate { s with ipv4Reass := ipv4ReassemblyGc s.tick s.ipv4Reass } src
    (macAt frame 6) with hs₁
  have hus' : ForUs s₁ dst := hus
  rw [if_neg (not_not.2 hus'), if_neg (by decide)]
  exact ⟨s₁, ⟨rfl, rfl, rfl, rfl, rfl⟩, rfl⟩

lemma netHandleIpv4Frame_fragment (hlen : payload.length ≤ 1480) (hus : ForUs s dst)
    (hflags : flags < 65536) (hfragment : flags &&& 0x3FFF ≠ 0) :
    ∃ r, r = ipv4ReassemblePacket s.tick (ipv4ReassemblyGc s.tick s.ipv4Reass) ⟨src, dst, protocol,
        ident, flags, ipv4Header (20 + payload.length) ident flags ttl protocol src dst, payload⟩ ∧
      ∃ s', s.SameUdp s' ∧ s'.ipv4Reass = r.1 ∧ ∃ d, netHandleIpv4Frame s (ipv4Frame dstMac rtlMac
        (ipv4Header (20 + payload.length) ident flags ttl protocol src dst) payload) = (s', d) ∧
        ∀ d' ∈ d, ∃ packet, r.2 = some packet ∧ d' = ipv4DatagramOf packet := by
  refine ⟨_, rfl, ?_⟩
  have hok : Ipv4FrameOk (ipv4Frame dstMac rtlMac
      (ipv4Header (20 + payload.length) ident flags ttl protocol src dst) payload) :=
    ipv4Frame_ok hlen rfl
  have hparts : ipv4FragmentOf (ipv4Frame dstMac rtlMac
      (ipv4Header (20 + payload.length) ident flags ttl protocol src dst) payload) =
      ⟨src, dst, protocol, ident, flags,
        ipv4Header (20 + payload.length) ident flags ttl protocol src dst, payload⟩ :=
    ipv4FragmentOf_ipv4Frame hlen rfl hflags
  have hshort := hok.1
  unfold netHandleIpv4Frame
  generalize ipv4Frame dstMac rtlMac
    (ipv4Header (20 + payload.length) ident flags ttl protocol src dst) payload = frame
    at hok hparts hshort ⊢
  simp only [if_neg (Nat.not_lt.2 hshort), not_true, hok, if_false, hparts]
  set s₁ := arpCacheUpdate { s with ipv4Reass := ipv4ReassemblyGc s.tick s.ipv4Reass } src
    (macAt frame 6) with hs₁
  have hus' : ForUs s₁ dst := hus
  rw [if_neg (not_not.2 hus'), if_pos hfragment]
  have htick : s₁.tick = s.tick := rfl
  have hreass : s₁.ipv4Reass = ipv4ReassemblyGc s.tick s.ipv4Reass := rfl
  rw [htick, hreass]
  generalize ipv4ReassemblePacket s.tick (ipv4ReassemblyGc s.tick s.ipv4Reass) _ = r
  refine ⟨{ s₁ with ipv4Reass := r.1 }, ⟨rfl, rfl, rfl, rfl, rfl⟩, rfl, ?_⟩
  cases r.2 with
  | none => exact ⟨none, rfl, by simp⟩
  | some packet =>
    dsimp only
    split_ifs
    · exact ⟨none, rfl, by simp⟩
    · exact ⟨_, rfl, fun d' hd' => ⟨packet, rfl, (Option.some.inj hd').symm⟩⟩

end

/-! ### The first fragment -/

/-- The slot has the first fragment of the datagram: its header, and the first block of its payload.
-/
def Ipv4ReassSlot.StartsWith (slot : Ipv4ReassSlot) (d : Ipv4Outgoing) : Prop :=
  slot.header = d.header 0 ∧ ∀ j < 8, slot.payload.get j = d.payload.getD j 0

/-- A slot that could give a packet of the datagram starts with its first fragment. -/
def Ipv4Reass.Starts (r : Ipv4Reass) (d : Ipv4Outgoing) : Prop :=
  ∀ i, (r i).used = true → (r i).key = d.key → (r i).haveFirst = true → (r i).StartsWith d

section

variable {r : Ipv4Reass} {d : Ipv4Outgoing} {key : Ipv4Key} {tick : UInt32} {k : Nat}

lemma Ipv4Reass.Starts.gc (h : r.Starts d) (tick : UInt32) :
    (ipv4ReassemblyGc tick r).Starts d := by
  intro i hi
  obtain ⟨hsame, hused, -⟩ := Ipv4Reass.gc_used hi
  rw [hsame]
  exact h i hused

lemma claim_key (slot : Ipv4ReassSlot) (f : Ipv4Fragment) : (slot.claim f).key = f.key := by
  by_cases hown : slot.used = true ∧ slot.key = f.key
  · rw [claim_of_key hown.1 hown.2, hown.2]
  · exact (claim_fresh fun hused hkey => hown ⟨hused, hkey⟩).key

lemma Ipv4Reass.Unique.reassemble (h : r.Unique) (tick : UInt32) (f : Ipv4Fragment) :
    (ipv4ReassemblePacket tick r f).1.Unique := by
  unfold ipv4ReassemblePacket
  by_cases haccepted : f.Accepted
  swap
  · rwa [if_pos haccepted]
  have hother := fun j hj => (h.gc tick).findSlot f.key (j := j) hj
  dsimp only
  generalize reassFindSlot (ipv4ReassemblyGc tick r) f.key (List.finRange 4) none 0xFFFFFFFF none = i
    at hother ⊢
  have hkey : (((ipv4ReassemblyGc tick r i).claim f).store tick f).key = f.key := by
    rw [store_key, claim_key]
  split_ifs
  · exact (h.gc tick).update fun j hj hused => (hother j hj hused).trans_eq hkey.symm
  · exact (h.gc tick).update fun j hj hused => (hother j hj hused).trans_eq hkey.symm

lemma store_startsWith {slot : Ipv4ReassSlot} (hmax : d.payload.length ≤ 4440)
    (hk : k < fragCount d.payload) (hlen : 8 ≤ d.payload.length)
    (h : k ≠ 0 → slot.haveFirst = true → slot.StartsWith d)
    (hfirst : (slot.store tick (d.fragment k)).haveFirst = true) :
    (slot.store tick (d.fragment k)).StartsWith d := by
  have hoff := Ipv4Outgoing.fragment_fragOffset hmax hk
  have hend := Ipv4Outgoing.length_fragment_payload hk
  have hlt := Ipv4Outgoing.lt_fragCount.1 hk
  have hpos : 0 < (d.fragment k).payload.length := by
    unfold Ipv4Outgoing.fragEnd at hend
    omega
  rw [store_haveFirst, hoff, Bool.or_eq_true, decide_eq_true_iff] at hfirst
  unfold Ipv4ReassSlot.StartsWith
  rw [store_header, store_payload hpos, hoff]
  by_cases hk0 : k = 0
  · subst hk0
    refine ⟨rfl, fun j hj => ?_⟩
    have hin : 1480 * 0 + j < d.fragEnd 0 := by
      unfold Ipv4Outgoing.fragEnd
      omega
    have hj' : j < (d.fragment 0).payload.length := by omega
    have hget := Bytes.get_patch_of_mem slot.payload 0 j (d.fragment 0).payload hj' (by omega)
    have hbyte := Ipv4Outgoing.fragment_payload_getElem hk hin
    rw [List.getElem?_eq_getElem hj', Nat.mul_zero, Nat.zero_add] at hbyte
    rw [Nat.zero_add] at hget
    rw [Nat.mul_zero, hget, List.getD_eq_getElem?_getD, ← hbyte]
    rfl
  · have hne : ¬ 1480 * k = 0 := by omega
    rw [if_neg hne]
    obtain ⟨hheader, hbytes⟩ := h hk0 (hfirst.resolve_left hne)
    refine ⟨hheader, fun j hj => ?_⟩
    rw [Bytes.get_patch_of_lt _ _ (by omega), hbytes j hj]

lemma Ipv4ReassSlot.StartsWith.packet {slot : Ipv4ReassSlot} (h : slot.StartsWith d) :
    ∃ rest, ipv4DatagramOf slot.packet = ⟨d.srcIp, d.dstIp, d.protocol, rest⟩ ∧
      (8 ≤ rest.length → readBe16 rest 4 = readBe16 d.payload 4) := by
  refine ⟨slot.payload.slice 0 slot.totalPayloadLen, ?_, fun hlen => ?_⟩
  · have hpacket : slot.packet = ipv4Header (20 + slot.totalPayloadLen) d.ident 0 d.ttl d.protocol
        d.srcIp d.dstIp ++ slot.payload.slice 0 slot.totalPayloadLen := by
      unfold Ipv4ReassSlot.packet
      rw [h.1]
      rfl
    rw [hpacket]
    simp only [ipv4DatagramOf, Ipv4Datagram.mk.injEq]
    refine ⟨ipv4HeaderWith_src, ipv4HeaderWith_dst, ipv4HeaderWith_protocol, ?_⟩
    rw [ipv4Header, ipv4HeaderWith_headerLen]
    exact List.drop_left' length_ipv4HeaderWith
  · rw [Bytes.length_slice] at hlen
    have hbyte : ∀ j < 8, (slot.payload.slice 0 slot.totalPayloadLen).getD j 0 =
        d.payload.getD j 0 := by
      intro j hj
      have hj' : j < (slot.payload.slice 0 slot.totalPayloadLen).length := by
        rw [Bytes.length_slice]
        omega
      rw [List.getD_eq_getElem?_getD, List.getElem?_eq_getElem hj', Bytes.getElem_slice,
        Nat.zero_add, Option.getD_some, h.2 j hj]
    simp only [readBe16, hbyte 4 (by decide), hbyte 5 (by decide)]

/-- Every fragment of the datagram, from the first on, leaves a table in which its slot starts with
the first fragment; a packet that it completes does too. -/
lemma reassemble_starts (hunique : r.Unique) (hmax : d.payload.length ≤ 4440)
    (hlen : 8 ≤ d.payload.length) (hk : k < fragCount d.payload) (hstarts : k ≠ 0 → r.Starts d)
    (tick : UInt32) :
    (ipv4ReassemblePacket tick r (d.fragment k)).1.Starts d ∧
      ∀ packet ∈ (ipv4ReassemblePacket tick r (d.fragment k)).2,
        ∃ rest, ipv4DatagramOf packet = ⟨d.srcIp, d.dstIp, d.protocol, rest⟩ ∧
          (8 ≤ rest.length → readBe16 rest 4 = readBe16 d.payload 4) := by
  unfold ipv4ReassemblePacket
  by_cases haccepted : (d.fragment k).Accepted
  swap
  · have hk0 : k ≠ 0 := by
      rintro rfl
      refine haccepted ⟨le_of_eq length_ipv4Header.symm, ?_, ?_⟩
      · exact (le_of_eq length_ipv4Header).trans (by decide)
      · have hend := Ipv4Outgoing.length_fragment_payload hk
        rw [Ipv4Outgoing.fragment_fragOffset hmax hk, hend]
        unfold Ipv4Outgoing.fragEnd ipv4ReassMaxPayload
        omega
    rw [if_pos haccepted]
    exact ⟨hstarts hk0, fun packet hpacket => by simp at hpacket⟩
  rw [if_neg (not_not.2 haccepted)]
  have hunique' := hunique.gc tick
  have hstarts' : k ≠ 0 → (ipv4ReassemblyGc tick r).Starts d := fun hk0 => (hstarts hk0).gc tick
  generalize ipv4ReassemblyGc tick r = r' at hunique' hstarts' ⊢
  have hother : ∀ j ≠ reassFindSlot r' (d.fragment k).key (List.finRange 4) none 0xFFFFFFFF none,
      (r' j).used = true → (r' j).key ≠ d.key := fun j hj hused => hunique'.findSlot d.key hj hused
  dsimp only
  generalize reassFindSlot r' (d.fragment k).key (List.finRange 4) none 0xFFFFFFFF none = i
    at hother ⊢
  have hclaim : k ≠ 0 → ((r' i).claim (d.fragment k)).haveFirst = true →
      ((r' i).claim (d.fragment k)).StartsWith d := by
    intro hk0 hfirst
    by_cases hown : (r' i).used = true ∧ (r' i).key = d.key
    · have hsame : (r' i).claim (d.fragment k) = r' i := claim_of_key hown.1 hown.2
      rw [hsame] at hfirst ⊢
      exact hstarts' hk0 i hown.1 hown.2 hfirst
    · have hfresh := claim_fresh (f := d.fragment k) fun hused hkey => hown ⟨hused, hkey⟩
      rw [hfresh.haveFirst] at hfirst
      cases hfirst
  generalize (r' i).claim (d.fragment k) = slot at hclaim
  have hstored : (slot.store tick (d.fragment k)).haveFirst = true →
      (slot.store tick (d.fragment k)).StartsWith d := store_startsWith hmax hk hlen hclaim
  generalize slot.store tick (d.fragment k) = slot' at hstored
  -- the slot is stored, in use or not
  have hupdate : ∀ slot'' : Ipv4ReassSlot, (slot''.haveFirst = true → slot''.StartsWith d) →
      Ipv4Reass.Starts (Function.update r' i slot'') d := by
    intro slot'' hstarts'' j hj hjkey hfirst
    have hself : Function.update r' i slot'' i = slot'' := Function.update_self ..
    by_cases hji : j = i
    · rw [hji, hself] at hfirst ⊢
      exact hstarts'' hfirst
    · rw [Function.update_of_ne hji] at hj hjkey
      exact absurd hjkey (hother j hji hj)
  split_ifs with hcomplete
  · refine ⟨hupdate { slot' with used := false } hstored, fun packet hpacket => ?_⟩
    obtain rfl : slot'.packet = packet := by simpa using hpacket
    exact (hstored hcomplete.1).packet
  · exact ⟨hupdate slot' hstored, fun packet hpacket => by simp at hpacket⟩

end

/-! ### The frames of a datagram -/

/-- The datagram that `net_send_udp` builds, without a checksum. -/
def udpPacketOf (srcPort dstPort : UInt16) (payload : List UInt8) : List UInt8 :=
  be16 srcPort.toNat ++ be16 dstPort.toNat ++ be16 (8 + payload.length) ++ be16 0 ++ payload

section

variable {s : Net} {dstIp : UInt32} {srcPort dstPort : UInt16} {payload : List UInt8}

@[simp] lemma length_udpPacketOf :
    (udpPacketOf srcPort dstPort payload).length = 8 + payload.length := by
  simp only [udpPacketOf, List.length_append, length_be16]

lemma udpPacketOf_len (h : payload.length ≤ ipv4ReassMaxPayload) :
    readBe16 (udpPacketOf srcPort dstPort payload) 4 = 8 + payload.length := by
  have hlt : 8 + payload.length < 65536 := by
    unfold ipv4ReassMaxPayload at h
    omega
  exact be16_value hlt

/-- What is put into a queue of the sender's own does not change what it sends. -/
lemma udpEnqueueWithFaults_frame (s : Net) (port : UInt16) (packet : UdpPacket) :
    ∃ bindings hold prng, (udpEnqueueWithFaults s port packet).1 =
      { s with udpBindings := bindings, udpReorderHold := hold, netFaultPrngState := prng } := by
  unfold udpEnqueueWithFaults
  obtain ⟨prng, hprng⟩ := netFaultShouldApply_frame s s.netFaultLossPercent
  dsimp only
  rw [hprng]
  split_ifs
  · exact ⟨_, _, _, rfl⟩
  · obtain ⟨b, hb⟩ := udpEnqueuePacket_bindings { s with netFaultPrngState := prng } port packet
    exact ⟨b, s.udpReorderHold, prng, by rw [hb]⟩
  · obtain ⟨b, hb⟩ := udpEnqueuePacket_bindings { s with netFaultPrngState := prng } port packet
    rw [hb]
    obtain ⟨b', hb'⟩ := udpEnqueuePacket_bindings
      { s with netFaultPrngState := prng, udpBindings := b } s.udpReorderHold.dstPort
      s.udpReorderHold.packet
    exact ⟨b', s.udpReorderHold, prng, by rw [hb']⟩
  · obtain ⟨b, hb⟩ := udpEnqueuePacket_bindings { s with netFaultPrngState := prng } port packet
    rw [hb]
    obtain ⟨b', hb'⟩ := udpEnqueuePacket_bindings
      { s with netFaultPrngState := prng, udpBindings := b } s.udpReorderHold.dstPort
      s.udpReorderHold.packet
    exact ⟨b', _, prng, by rw [hb']⟩
  · obtain ⟨prng', hprng'⟩ :=
      netFaultShouldApply_frame { s with netFaultPrngState := prng } s.netFaultReorderPercent
    rw [hprng']
    exact ⟨_, _, prng', rfl⟩
  · obtain ⟨prng', hprng'⟩ :=
      netFaultShouldApply_frame { s with netFaultPrngState := prng } s.netFaultReorderPercent
    rw [hprng']
    obtain ⟨b, hb⟩ := udpEnqueuePacket_bindings { s with netFaultPrngState := prng' } port packet
    exact ⟨b, s.udpReorderHold, prng', by rw [hb]⟩

lemma netSendIpv4Raw_sent {ttl protocol : UInt8} {ident : UInt16} (hmax : payload.length ≤ 65515)
    (hpos : 0 < payload.length)
    (hsent : (netSendIpv4Raw s dstIp protocol payload ttl ident).2 = true) :
    ∃ (mac : Mac) (arp : List (List UInt8)), (∀ frame ∈ arp, readBe16 frame 12 ≠ ethTypeIpv4) ∧
      (netSendIpv4Raw s dstIp protocol payload ttl ident).1.tx = s.tx ++ (arp ++
        if payload.length ≤ 1480 then
          [ipv4Frame mac s.rtlMac
            (ipv4Header (20 + payload.length) ident 0 ttl protocol s.netIp dstIp) payload]
        else fragmentFrames s mac dstIp protocol payload ttl ident) := by
  by_cases hready : s.netReady = true
  swap
  · simp [netSendIpv4Raw, hready] at hsent
  obtain ⟨mac, arp, harp, hraw⟩ : ∃ (mac : Mac) (arp : List (List UInt8)),
      (∀ frame ∈ arp, readBe16 frame 12 ≠ ethTypeIpv4) ∧
        netSendIpv4Raw s dstIp protocol payload ttl ident = _ := netSendIpv4Raw_eq hready hmax
  refine ⟨mac, arp, harp, ?_⟩
  rw [hraw] at hsent ⊢
  have hbase : s.rtlIobase ≠ 0 := by
    intro hbase
    split_ifs at hsent
    · simp [rtl8139SendFrame, Net.send, hbase] at hsent
    · rw [sendFragments, dif_pos hpos] at hsent
      split_ifs at hsent
      simp [rtl8139SendFrame, Net.send, hbase] at hsent
  split_ifs with hwhole
  · have hlen : (ipv4Header (20 + payload.length) ident 0 ttl protocol s.netIp dstIp).length +
        payload.length ≤ 1500 := by
      rw [length_ipv4Header]
      omega
    rw [rtl8139SendFrame_ready (s := s.send arp) hready hbase (length_ipv4Frame_le _ _ hlen)]
    simp [Net.send]
  · rw [sendFragments_tx (s := s.send arp) hready hbase]
    simp only [Net.send, List.append_assoc]
    rfl

lemma netSendUdp_sent (hsent : (netSendUdp s dstIp srcPort dstPort payload).2 = true) :
    payload.length ≤ ipv4ReassMaxPayload ∧
      ∃ (mac : Mac) (arp : List (List UInt8)), (∀ frame ∈ arp, readBe16 frame 12 ≠ ethTypeIpv4) ∧
        (netSendUdp s dstIp srcPort dstPort payload).1.tx = s.tx ++ (arp ++
          if 8 + payload.length ≤ 1480 then
            [ipv4Frame mac s.rtlMac (ipv4Header (20 + (8 + payload.length)) s.ipv4TxIdent 0 64
              ipProtoUdp s.netIp dstIp) (udpPacketOf srcPort dstPort payload)]
          else fragmentFrames s mac dstIp ipProtoUdp (udpPacketOf srcPort dstPort payload) 64
            s.ipv4TxIdent) := by
  obtain ⟨t, htDef, ht⟩ : ∃ t : Net,
      t = (if dstIp = s.netIp ∨ dstIp = 0x7F000001 ∨ dstIp = 0xFFFFFFFF then
        (udpEnqueueWithFaults s dstPort ⟨s.netIp, srcPort, payload⟩).1 else s) ∧
      (t.tx = s.tx ∧ t.rtlMac = s.rtlMac ∧ t.netIp = s.netIp ∧ t.ipv4TxIdent = s.ipv4TxIdent) := by
    refine ⟨_, rfl, ?_⟩
    split_ifs
    · obtain ⟨b, h, g, hframe⟩ := udpEnqueueWithFaults_frame s dstPort ⟨s.netIp, srcPort, payload⟩
      rw [hframe]
      exact ⟨rfl, rfl, rfl, rfl⟩
    · exact ⟨rfl, rfl, rfl, rfl⟩
  unfold netSendUdp at hsent ⊢
  simp only [← htDef] at hsent ⊢
  by_cases hready : s.netReady = true
  swap
  · simp [hready] at hsent
  by_cases hlen : payload.length > ipv4ReassMaxPayload
  · simp [hready, hlen] at hsent
  simp only [hready, Bool.not_true, Bool.false_eq_true, if_false, hlen] at hsent ⊢
  refine ⟨Nat.not_lt.1 hlen, ?_⟩
  have hlen' := Nat.not_lt.1 hlen
  unfold ipv4ReassMaxPayload at hlen'
  have hlength : (udpPacketOf srcPort dstPort payload).length = 8 + payload.length :=
    length_udpPacketOf
  obtain ⟨mac, arp, harp, htx⟩ : ∃ (mac : Mac) (arp : List (List UInt8)), _ ∧
      (netSendIpv4Raw t dstIp ipProtoUdp (udpPacketOf srcPort dstPort payload) 64
        t.ipv4TxIdent).1.tx = _ := netSendIpv4Raw_sent (by omega) (by omega) hsent
  obtain ⟨htx', hmac, hip, hident⟩ := ht
  refine ⟨mac, arp, harp, ?_⟩
  rw [hlength, htx', hmac, hip, fragmentFrames_congr hmac hip, hident] at htx
  rw [← hident] at htx ⊢
  exact htx

end

/-! ### Delivery -/

section

variable {s : Net} {port : UInt16}

lemma netHandleEthFrame_udp {s' : Net} {frame : List UInt8} {src dst : UInt32} {l : List UInt8}
    (htype : readBe16 frame 12 = ethTypeIpv4) (hlong : 14 ≤ frame.length)
    (h : netHandleIpv4Frame s frame = (s', some ⟨src, dst, ipProtoUdp, l⟩)) :
    netHandleEthFrame s frame = if l.length < 8 then s' else netHandleUdpDatagram s' src dst l := by
  have hicmp : ¬ ipProtoUdp = ipProtoIcmp := by decide
  unfold netHandleEthFrame
  rw [if_neg (Nat.not_lt.2 hlong), if_pos htype, h]
  simp only [if_neg hicmp, if_true]

lemma netHandleEthFrame_none {s' : Net} {frame : List UInt8}
    (htype : readBe16 frame 12 = ethTypeIpv4) (hlong : 14 ≤ frame.length)
    (h : netHandleIpv4Frame s frame = (s', none)) : netHandleEthFrame s frame = s' := by
  unfold netHandleEthFrame
  rw [if_neg (Nat.not_lt.2 hlong), if_pos htype, h]

lemma length_ipv4Frame_ge (dstMac rtlMac : Mac) (header payload : List UInt8) :
    14 ≤ (ipv4Frame dstMac rtlMac header payload).length := by
  have hpre := length_ethHeader dstMac rtlMac
  simp only [ipv4Frame, padFrame, List.length_append, List.length_replicate] at hpre ⊢
  omega

lemma foldl_netReceive_other {as : List (UInt32 × List UInt8)}
    (h : ∀ frame ∈ as.map Prod.snd, readBe16 frame 12 ≠ ethTypeIpv4) (s : Net) :
    s.SameUdp (as.foldl netReceive s) ∧ (as.foldl netReceive s).ipv4Reass = s.ipv4Reass := by
  induction as generalizing s with
  | nil => exact ⟨Net.SameUdp.refl s, rfl⟩
  | cons a as ih =>
    have hframe : readBe16 a.2 12 ≠ ethTypeIpv4 := h a.2 (by simp)
    obtain ⟨hsame, hreass⟩ := netHandleEthFrame_other (s := { s with tick := a.1 }) hframe
    obtain ⟨hsame', hreass'⟩ := ih (fun frame hmem => h frame (by simp [hmem])) (netReceive s a)
    refine ⟨Net.SameUdp.trans ?_ hsame', hreass'.trans hreass⟩
    exact ⟨hsame.netIp, hsame.udpBindings, hsame.loss, hsame.reorder, hsame.hold⟩

variable {dstMac rtlMac : Mac} {ident srcPort dstPort : UInt16} {src dst : UInt32}
  {payload : List UInt8}

/-- A datagram in one frame reaches the handler of UDP. -/
lemma netReceive_udp (dstMac rtlMac : Mac) (ident srcPort dstPort : UInt16) (src : UInt32)
    (hus : ForUs s dst) (hlen : 8 + payload.length ≤ 1480) (tick : UInt32) :
    ∃ s', s.SameUdp s' ∧ netReceive s (tick, ipv4Frame dstMac rtlMac (ipv4Header
      (20 + (8 + payload.length)) ident 0 64 ipProtoUdp src dst)
        (udpPacketOf srcPort dstPort payload)) =
      netHandleUdpDatagram s' src dst (udpPacketOf srcPort dstPort payload) := by
  have hlength : (udpPacketOf srcPort dstPort payload).length = 8 + payload.length :=
    length_udpPacketOf
  obtain ⟨s', hsame, hframe⟩ : ∃ s', Net.SameUdp { s with tick := tick } s' ∧
      netHandleIpv4Frame { s with tick := tick } (ipv4Frame dstMac rtlMac
        (ipv4Header (20 + (udpPacketOf srcPort dstPort payload).length) ident 0 64 ipProtoUdp src dst)
        (udpPacketOf srcPort dstPort payload)) =
      (s', some ⟨src, dst, ipProtoUdp, udpPacketOf srcPort dstPort payload⟩) :=
    netHandleIpv4Frame_whole (by omega) hus
  rw [hlength] at hframe
  have hhandle := netHandleEthFrame_udp (ipv4Frame_ethType _ _ _ _) (length_ipv4Frame_ge _ _ _ _) hframe
  rw [hlength, if_neg (by omega)] at hhandle
  exact ⟨s', ⟨hsame.netIp, hsame.udpBindings, hsame.loss, hsame.reorder, hsame.hold⟩, hhandle⟩

lemma netReceive_whole (hs : s.NoFaults) (hus : ForUs s dst) {i : Fin 16}
    (hi : udpFindBinding s dstPort = some i) (hlen : payload.length ≤ udpMaxPayload)
    (hroom : (udpQueued s dstPort).length < 16) (tick : UInt32) :
    udpQueued (netReceive s (tick, ipv4Frame dstMac rtlMac (ipv4Header (20 + (8 + payload.length))
      ident 0 64 ipProtoUdp src dst) (udpPacketOf srcPort dstPort payload))) dstPort =
      udpQueued s dstPort ++ [⟨src, srcPort, payload⟩] := by
  have hlen' : payload.length ≤ 1200 := hlen
  have hlength : (udpPacketOf srcPort dstPort payload).length = 8 + payload.length :=
    length_udpPacketOf
  obtain ⟨s', hsame, hhandle⟩ := netReceive_udp dstMac rtlMac ident srcPort dstPort src hus
    (show 8 + payload.length ≤ 1480 by omega) tick
  have hheaderLen : readBe16 (udpPacketOf srcPort dstPort payload) 4 = 8 + payload.length :=
    udpPacketOf_len (hlen'.trans (by decide))
  have hchecksum : readBe16 (udpPacketOf srcPort dstPort payload) 6 = 0 := be16_value (by decide)
  have hok : UdpOk src dst (udpPacketOf srcPort dstPort payload) := by
    refine ⟨by omega, by omega, by omega, fun hne => absurd hchecksum hne⟩
  have hdst : UInt16.ofNat (readBe16 (udpPacketOf srcPort dstPort payload) 2) = dstPort := by
    have hread : readBe16 (udpPacketOf srcPort dstPort payload) 2 = dstPort.toNat :=
      be16_value dstPort.toNat_lt
    rw [hread, UInt16.ofNat_toNat]
  have hsrc : UInt16.ofNat (readBe16 (udpPacketOf srcPort dstPort payload) 0) = srcPort := by
    have hread : readBe16 (udpPacketOf srcPort dstPort payload) 0 = srcPort.toNat :=
      be16_value srcPort.toNat_lt
    rw [hread, UInt16.ofNat_toNat]
  have hdata : ((udpPacketOf srcPort dstPort payload).drop 8).take (8 + payload.length - 8) =
      payload := by
    rw [Nat.add_sub_cancel_left]
    exact List.take_length
  rw [hhandle, netHandleUdpDatagram, if_neg (not_not.2 hok), hdst, hsrc, hheaderLen, hdata,
    udpEnqueueWithFaults_of_noFaults (hsame.noFaults hs)]
  have hqueued := hsame.queued dstPort
  rw [udpEnqueuePacket_queued ((hsame.find dstPort).trans hi) hlen (by rwa [hqueued]), hqueued]

lemma netReceive_whole_dropped (hs : s.NoFaults) (hus : ForUs s dst)
    (hlong : udpMaxPayload < payload.length) (hlen : 8 + payload.length ≤ 1480) (tick : UInt32) :
    udpQueued (netReceive s (tick, ipv4Frame dstMac rtlMac (ipv4Header (20 + (8 + payload.length))
      ident 0 64 ipProtoUdp src dst) (udpPacketOf srcPort dstPort payload))) port =
      udpQueued s port := by
  obtain ⟨s', hsame, hhandle⟩ := netReceive_udp dstMac rtlMac ident srcPort dstPort src hus hlen tick
  have hheaderLen : readBe16 (udpPacketOf srcPort dstPort payload) 4 = 8 + payload.length :=
    udpPacketOf_len (by unfold ipv4ReassMaxPayload; omega)
  rw [hhandle, netHandleUdpDatagram_dropped (hsame.noFaults hs) _ _ (by omega), hsame.queued]

/-! ### Fragments of a datagram that is too long -/

/-- What the peer keeps while the fragments of a datagram arrive. -/
structure Net.Awaits (s : Net) (dst : UInt32) : Prop where
  noFaults : s.NoFaults
  forUs : ForUs s dst
  unique : s.ipv4Reass.Unique

variable {s : Net} {d : Ipv4Outgoing}

lemma Net.SameUdp.awaits {s' : Net} (h : s.SameUdp s') (hs : s.Awaits dst)
    (hreass : s'.ipv4Reass = s.ipv4Reass) : s'.Awaits dst :=
  ⟨h.noFaults hs.noFaults, (h.forUs dst).2 hs.forUs, hreass ▸ hs.unique⟩

lemma netHandleUdpDatagram_bindings (h : s.NoFaults) (srcIp dstIp : UInt32) (l : List UInt8) :
    ∃ bindings, netHandleUdpDatagram s srcIp dstIp l = { s with udpBindings := bindings } := by
  unfold netHandleUdpDatagram
  split_ifs
  · rw [udpEnqueueWithFaults_of_noFaults h]
    exact udpEnqueuePacket_bindings _ _ _
  · exact ⟨s.udpBindings, rfl⟩

lemma fragFlags_fragment (hlen : 1480 < d.payload.length) (hmax : d.payload.length ≤ 4440) {k : Nat}
    (hk : k < fragCount d.payload) :
    d.fragFlags k &&& 0x3FFF ≠ 0 := by
  have hk2 := Ipv4Outgoing.le_two hmax hk
  unfold Ipv4Outgoing.fragFlags flagsOff
  rw [fragPayload_eq]
  interval_cases k
  · rw [if_pos (by omega)]
    decide
  · split_ifs <;> decide
  · split_ifs <;> decide

/-- A fragment of a datagram that is too long for the queue. -/
lemma netReceive_fragment (hs : s.Awaits d.dstIp) (hproto : d.protocol = ipProtoUdp)
    (hlong : 8 + udpMaxPayload < readBe16 d.payload 4) (hlen : 1480 < d.payload.length)
    (hmax : d.payload.length ≤ 4440) {k : Nat} (hk : k < fragCount d.payload)
    (hstarts : k ≠ 0 → s.ipv4Reass.Starts d) (tick : UInt32) {frame : List UInt8}
    (hframe : frame = ipv4Frame dstMac rtlMac (d.header k) (d.fragment k).payload) :
    (netReceive s (tick, frame)).Awaits d.dstIp ∧ (netReceive s (tick, frame)).ipv4Reass.Starts d ∧
      udpQueued (netReceive s (tick, frame)) port = udpQueued s port := by
  have hend := Ipv4Outgoing.length_fragment_payload hk
  have hlength : (d.fragment k).payload.length ≤ 1480 := by
    unfold Ipv4Outgoing.fragEnd at hend
    omega
  have hfragLen : fragPayload (d.payload.length - 1480 * k) = (d.fragment k).payload.length := by
    have hlt := Ipv4Outgoing.lt_fragCount.1 hk
    unfold Ipv4Outgoing.fragEnd at hend
    rw [fragPayload_eq]
    omega
  have hflags : d.fragFlags k < 65536 := (Ipv4Outgoing.flagsOff_spec
    (Ipv4Outgoing.le_two hmax hk) (fragPayload (d.payload.length - 1480 * k)) d.payload.length).2.2
  have hheader : d.header k = ipv4Header (20 + (d.fragment k).payload.length) d.ident (d.fragFlags k)
      d.ttl d.protocol d.srcIp d.dstIp := by rw [← hfragLen, Ipv4Outgoing.header]
  rw [hheader] at hframe
  obtain ⟨r, hr, s', hsame, hreass, out, hhandle, hout⟩ :
      ∃ r : Ipv4Reass × Option (List UInt8), r = _ ∧ ∃ s',
      Net.SameUdp { s with tick := tick } s' ∧ s'.ipv4Reass = r.1 ∧ ∃ out,
        netHandleIpv4Frame { s with tick := tick } (ipv4Frame dstMac rtlMac (ipv4Header
          (20 + (d.fragment k).payload.length) d.ident (d.fragFlags k) d.ttl d.protocol d.srcIp
          d.dstIp) (d.fragment k).payload) = (s', out) ∧ _ :=
    netHandleIpv4Frame_fragment hlength hs.forUs hflags (fragFlags_fragment hlen hmax hk)
  have hfrag : (⟨d.srcIp, d.dstIp, d.protocol, d.ident, d.fragFlags k,
      ipv4Header (20 + (d.fragment k).payload.length) d.ident (d.fragFlags k) d.ttl d.protocol d.srcIp
        d.dstIp, (d.fragment k).payload⟩ : Ipv4Fragment) = d.fragment k := by
    rw [← hheader]
    rfl
  rw [hfrag] at hr
  have hunique := (hs.unique.gc tick).reassemble tick (d.fragment k)
  obtain ⟨hstarts', hpacket⟩ := reassemble_starts (hs.unique.gc tick) hmax (by omega) hk
    (fun hk0 => (hstarts hk0).gc tick) tick
  rw [← hr] at hunique hstarts' hpacket
  have hsame' : s.SameUdp s' := ⟨hsame.netIp, hsame.udpBindings, hsame.loss, hsame.reorder, hsame.hold⟩
  have hawaits : s'.Awaits d.dstIp :=
    ⟨hsame'.noFaults hs.noFaults, (hsame'.forUs _).2 hs.forUs, hreass ▸ hunique⟩
  have htype : readBe16 frame 12 = ethTypeIpv4 := hframe ▸ ipv4Frame_ethType _ _ _ _
  have hshort : 14 ≤ frame.length := hframe ▸ length_ipv4Frame_ge _ _ _ _
  rw [← hframe] at hhandle
  unfold netReceive
  cases out with
  | none =>
    rw [netHandleEthFrame_none htype hshort hhandle, hsame'.queued, hreass]
    exact ⟨hawaits, hstarts', rfl⟩
  | some d' =>
    obtain ⟨packet, hsome, hd'⟩ := hout d' rfl
    obtain ⟨rest, hrest, hheaderLen⟩ := hpacket packet hsome
    rw [hd', hrest, hproto] at hhandle
    rw [netHandleEthFrame_udp htype hshort hhandle]
    split_ifs with htooShort
    · rw [hsame'.queued, hreass]
      exact ⟨hawaits, hstarts', rfl⟩
    · have htooLong : 8 + udpMaxPayload < readBe16 rest 4 := by
        rwa [hheaderLen (by omega)]
      have hdropped := netHandleUdpDatagram_dropped hawaits.noFaults d.srcIp d.dstIp htooLong port
      obtain ⟨bindings, hbindings⟩ :=
        netHandleUdpDatagram_bindings hawaits.noFaults d.srcIp d.dstIp rest
      rw [hdropped, hsame'.queued, hbindings]
      obtain ⟨⟨hloss, hreorder, hhold⟩, hus, hunique'⟩ := hawaits
      exact ⟨⟨⟨hloss, hreorder, hhold⟩, hus, hunique'⟩, hreass ▸ hstarts', rfl⟩

lemma foldl_netReceive_fragments (hproto : d.protocol = ipProtoUdp)
    (hlong : 8 + udpMaxPayload < readBe16 d.payload 4) (hlen : 1480 < d.payload.length)
    (hmax : d.payload.length ≤ 4440) {as : List (UInt32 × List UInt8)} {k : Nat}
    (has : as.map Prod.snd = (List.range' k as.length).map fun k =>
      ipv4Frame dstMac rtlMac (d.header k) (d.fragment k).payload)
    (hk : k + as.length ≤ fragCount d.payload) {s : Net} (hs : s.Awaits d.dstIp)
    (hstarts : k ≠ 0 → s.ipv4Reass.Starts d) :
    udpQueued (as.foldl netReceive s) port = udpQueued s port := by
  induction as generalizing k s with
  | nil => rfl
  | cons a as ih =>
    rw [List.length_cons, List.range'_succ, List.map_cons, List.map_cons, List.cons.injEq] at has
    rw [List.length_cons] at hk
    obtain ⟨hawaits, hstarts', hqueued⟩ :
        (netReceive s (a.1, a.2)).Awaits d.dstIp ∧ (netReceive s (a.1, a.2)).ipv4Reass.Starts d ∧
          udpQueued (netReceive s (a.1, a.2)) port = udpQueued s port :=
      netReceive_fragment hs hproto hlong hlen hmax (by omega) hstarts a.1 has.1
    have hrest : udpQueued (as.foldl netReceive (netReceive s a)) port =
        udpQueued (netReceive s a) port :=
      ih has.2 (by omega) hawaits fun _ => hstarts'
    exact hrest.trans hqueued

end

/-! ### The slots of the peer -/

section

variable {s : Net}

lemma sendFragments_reass (mac : Mac) (dst : UInt32) (protocol : UInt8) (l : List UInt8)
    (ttl : UInt8) (ident : UInt16) (offset : Nat) :
    (sendFragments s mac dst protocol l ttl ident offset).1.ipv4Reass = s.ipv4Reass := by
  fun_induction sendFragments s mac dst protocol l ttl ident offset with
  | case2 _ _ _ _ _ _ _ _ ih => exact ih.trans (rtl8139SendFrame_other ..).2
  | case3 => exact (rtl8139SendFrame_other ..).2
  | _ => rfl

lemma netSendIpv4Raw_reass (dst : UInt32) (protocol : UInt8) (l : List UInt8) (ttl : UInt8)
    (ident : UInt16) : (netSendIpv4Raw s dst protocol l ttl ident).1.ipv4Reass = s.ipv4Reass := by
  obtain ⟨arp, -, hsent⟩ := netSendArpRequest_tx s (netRouteNextHop s dst)
  unfold netSendIpv4Raw
  dsimp only
  rw [hsent]
  split_ifs
  · rfl
  all_goals first | rw [(rtl8139SendFrame_other ..).2] | rw [sendFragments_reass]
  all_goals first | rfl | split <;> rfl

lemma netForwardIpv4Packet_reass (packet : List UInt8) :
    (netForwardIpv4Packet s packet).ipv4Reass = s.ipv4Reass := by
  unfold netForwardIpv4Packet
  dsimp only
  split_ifs
  · rfl
  · rfl
  · split
    · rfl
    · rw [(rtl8139SendFrame_other ..).2]
      split
      · rfl
      · obtain ⟨arp, -, hsent⟩ := netSendArpRequest_tx s _
        rw [hsent]
        rfl

lemma unique_netHandleIpv4Frame (h : s.ipv4Reass.Unique) (frame : List UInt8) :
    (netHandleIpv4Frame s frame).1.ipv4Reass.Unique := by
  have hgc := h.gc s.tick
  unfold netHandleIpv4Frame
  have hstart : (if frame.length < 34 then s else
      { s with ipv4Reass := ipv4ReassemblyGc s.tick s.ipv4Reass }).ipv4Reass.Unique := by
    split_ifs
    exacts [h, hgc]
  generalize (ite (frame.length < 34) s _) = s' at hstart ⊢
  dsimp only
  generalize ipv4FragmentOf frame = f
  have hnext := hstart.reassemble (arpCacheUpdate s' f.srcIp (macAt frame 6)).tick f
  have hreass : (arpCacheUpdate s' f.srcIp (macAt frame 6)).ipv4Reass = s'.ipv4Reass := rfl
  rw [← hreass] at hnext hstart
  generalize arpCacheUpdate s' f.srcIp (macAt frame 6) = s₁ at hnext hreass hstart ⊢
  generalize ipv4ReassemblePacket s₁.tick s₁.ipv4Reass f = r at hnext ⊢
  split_ifs
  · obtain ⟨r, packet⟩ := r
    cases packet with
    | none => exact hnext
    | some packet =>
      dsimp only
      split_ifs <;> exact hnext
  · exact hstart
  · rwa [netForwardIpv4Packet_reass]
  · rwa [hreass] at hstart

/-- No two slots are for one datagram, whatever frames arrive. -/
lemma unique_netReceive (h : s.ipv4Reass.Unique) (a : UInt32 × List UInt8) :
    (netReceive s a).ipv4Reass.Unique := by
  by_cases htype : readBe16 a.2 12 = ethTypeIpv4
  swap
  · rwa [netReceive, (netHandleEthFrame_other htype).2]
  have hframe := unique_netHandleIpv4Frame (s := { s with tick := a.1 }) h a.2
  unfold netReceive netHandleEthFrame
  rw [if_pos htype]
  generalize netHandleIpv4Frame _ _ = r at hframe
  split
  · exact h
  obtain ⟨s', d⟩ := r
  cases d with
  | none => exact hframe
  | some d =>
    unfold netSendIcmpEchoReply netHandleUdpDatagram
    obtain ⟨_, _, _, heq⟩ := udpEnqueueWithFaults_frame s' _ _
    dsimp only
    rw [heq]
    split_ifs <;> try exact hframe
    rwa [netSendIpv4Raw_reass]

end

/-! ### Delivery of all lengths -/

section

variable {s peer : Net} {dstIp : UInt32} {srcPort dstPort : UInt16} {payload : List UInt8}
  {arrivals : List (UInt32 × List UInt8)}

/-- The queue of the peer when all frames have arrived. -/
lemma foldl_netReceive_netSendUdp
    (hsent : (netSendUdp { s with tx := [] } dstIp srcPort dstPort payload).2 = true)
    (harrivals : arrivals.map Prod.snd =
      (netSendUdp { s with tx := [] } dstIp srcPort dstPort payload).1.tx)
    (hpeer : peer.Awaits dstIp) {i : Fin 16} (hi : udpFindBinding peer dstPort = some i)
    (hroom : (udpQueued peer dstPort).length < 16) :
    udpQueued (arrivals.foldl netReceive peer) dstPort = udpQueued peer dstPort ++
      if payload.length ≤ udpMaxPayload then [⟨s.netIp, srcPort, payload⟩] else [] := by
  obtain ⟨hmax, mac, arp, harp, htx⟩ := netSendUdp_sent hsent
  have hmax' : payload.length ≤ 4096 := hmax
  rw [htx, List.nil_append] at harrivals
  obtain ⟨asArp, asIp, rfl, hArp, hIp⟩ := List.map_eq_append_iff.1 harrivals
  obtain ⟨hsame, hreass⟩ := foldl_netReceive_other (by rw [hArp]; exact harp) peer
  rw [List.foldl_append]
  have hpeer' := hsame.awaits hpeer hreass
  rw [← hsame.queued dstPort] at hroom ⊢
  rw [← hsame.find dstPort] at hi
  generalize asArp.foldl netReceive peer = p at hpeer' hroom hi ⊢
  split_ifs at hIp with hwhole
  · obtain ⟨⟨tick, frame⟩, rfl, rfl⟩ := List.map_eq_singleton_iff.1 hIp
    rw [List.foldl_cons, List.foldl_nil]
    split_ifs with hlen
    · exact netReceive_whole hpeer'.noFaults hpeer'.forUs hi hlen hroom tick
    · rw [List.append_nil]
      exact netReceive_whole_dropped hpeer'.noFaults hpeer'.forUs (Nat.not_le.1 hlen) hwhole tick
  · have hlong : ¬ payload.length ≤ udpMaxPayload := by
      unfold udpMaxPayload
      omega
    rw [if_neg hlong, List.append_nil]
    set d := Ipv4Outgoing.mk s.netIp dstIp ipProtoUdp (udpPacketOf srcPort dstPort payload) 64
      s.ipv4TxIdent with hd
    have hlength : d.payload.length = 8 + payload.length := length_udpPacketOf
    have hcount : asIp.length = fragCount d.payload := by
      have hmap := congrArg List.length hIp
      rwa [List.length_map, fragmentFrames, List.length_map, List.length_range] at hmap
    have hfrags : asIp.map Prod.snd = (List.range' 0 asIp.length).map fun k =>
        ipv4Frame mac s.rtlMac (d.header k) (d.fragment k).payload := by
      rw [hIp, hcount, fragmentFrames, List.range_eq_range']
      rfl
    have hlen : 8 + udpMaxPayload < readBe16 d.payload 4 := by
      have hread : readBe16 d.payload 4 = 8 + payload.length := udpPacketOf_len hmax
      rw [hread]
      omega
    exact foldl_netReceive_fragments (d := d) rfl hlen (by omega) (by omega) hfrags
      (by omega) hpeer' fun h => absurd rfl h

end

/-- A datagram that was sent without an error comes out of the queue of the peer, behind those that
were there, if and only if its payload is not longer than a slot of the queue. -/
theorem udp_delivered_iff {s peer : Net} {dstIp : UInt32} {srcPort dstPort : UInt16}
    {payload : List UInt8} {arrivals : List (UInt32 × List UInt8)}
    (hsent : (netSendUdp { s with tx := [] } dstIp srcPort dstPort payload).2 = true)
    (harrivals : arrivals.map Prod.snd =
      (netSendUdp { s with tx := [] } dstIp srcPort dstPort payload).1.tx)
    (hfaults : peer.NoFaults) (hus : ForUs peer dstIp) (hunique : peer.ipv4Reass.Unique)
    {i : Fin 16} (hbound : udpFindBinding peer dstPort = some i)
    (hroom : (peer.udpBindings i).queue.count < 16) {maxLen : Nat} (hmax : 0 < maxLen)
    (hlarge : payload.length ≤ maxLen) :
    (netUdpRecv ((fun s => (netUdpRecv s dstPort maxLen).1)^[(peer.udpBindings i).queue.count]
        (arrivals.foldl netReceive peer)) dstPort maxLen).2 = some ⟨s.netIp, srcPort, payload⟩ ↔
      payload.length ≤ udpMaxPayload := by
  have hcount : (udpQueued peer dstPort).length = (peer.udpBindings i).queue.count := by
    rw [udpQueued_of_find hbound, RingBuffer.length_toList]
  have hqueued := foldl_netReceive_netSendUdp hsent harrivals ⟨hfaults, hus, hunique⟩ hbound
    (by rwa [hcount])
  have hrest := netUdpRecv_iterate hmax (peer.udpBindings i).queue.count
    (arrivals.foldl netReceive peer) dstPort
  rw [hqueued, List.drop_left' hcount] at hrest
  rw [(netUdpRecv_queued hmax _ dstPort).1, hrest]
  split_ifs with hlen
  · refine iff_of_true ?_ hlen
    rw [List.head?_cons, Option.map_some, List.take_of_length_le hlarge]
  · exact iff_of_false (by simp) hlen

/-- A peer with a bound port. -/
def boundPeer : Net := (netUdpBind (Net.booted 0x0A000210) 9000).1

/-- The frames of a datagram to the peer, that arrive one tick after the boot. -/
def arrivalsOf (payload : List UInt8) : List (UInt32 × List UInt8) :=
  (netSendUdp (Net.booted 0x0A00020F) 0x0A000210 4000 9000 payload).1.tx.map fun frame => (1, frame)

lemma arrivalsOf_frames (payload : List UInt8) : (arrivalsOf payload).map Prod.snd =
    (netSendUdp { Net.booted 0x0A00020F with tx := [] } 0x0A000210 4000 9000 payload).1.tx := by
  rw [arrivalsOf, List.map_map]
  exact List.map_id _

lemma boundPeer_find : udpFindBinding boundPeer 9000 = some 0 := by decide

lemma boundPeer_unique : boundPeer.ipv4Reass.Unique := fun _ _ h => by cases h

/-- A short datagram arrives. -/
theorem udp_delivered_short :
    (netUdpRecv ((arrivalsOf [1, 2, 3]).foldl netReceive boundPeer) 9000 1500).2 =
      some ⟨0x0A00020F, 4000, [1, 2, 3]⟩ :=
  (udp_delivered_iff (by decide) (arrivalsOf_frames [1, 2, 3]) ⟨rfl, rfl, rfl⟩ (Or.inl rfl)
    boundPeer_unique boundPeer_find (by decide) (by decide) (by decide)).2 (by decide)

set_option maxRecDepth 20000 in
/-- A datagram of 1201 bytes is sent without an error, to a peer with an empty queue, and does not
arrive. -/
theorem udp_not_delivered :
    (netSendUdp (Net.booted 0x0A00020F) 0x0A000210 4000 9000 (List.replicate 1201 7)).2 = true ∧
      boundPeer.NoFaults ∧ udpFindBinding boundPeer 9000 = some 0 ∧
      (boundPeer.udpBindings 0).queue.count = 0 ∧
      (netUdpRecv ((arrivalsOf (List.replicate 1201 7)).foldl netReceive boundPeer) 9000 1500).2 ≠
        some ⟨0x0A00020F, 4000, List.replicate 1201 7⟩ := by
  have hsent : (netSendUdp { Net.booted 0x0A00020F with tx := [] } 0x0A000210 4000 9000
      (List.replicate 1201 7)).2 = true := by decide
  have hempty : udpQueued boundPeer 9000 = [] := by decide
  have hpeer : boundPeer.Awaits 0x0A000210 := ⟨⟨rfl, rfl, rfl⟩, Or.inl rfl, boundPeer_unique⟩
  have hqueued := foldl_netReceive_netSendUdp hsent (arrivalsOf_frames _) hpeer boundPeer_find
    (by rw [hempty]; decide)
  rw [hempty, if_neg (by rw [List.length_replicate]; decide)] at hqueued
  refine ⟨hsent, ⟨rfl, rfl, rfl⟩, boundPeer_find, by decide, ?_⟩
  rw [(netUdpRecv_queued (by decide) _ 9000).1, hqueued]
  exact nofun

end NeuroSpark
