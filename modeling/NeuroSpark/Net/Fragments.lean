import NeuroSpark.Net.Receive

/-!
# Frames that are sent are the frames that are read

A frame that the sender builds is taken apart by the receiver into the header and the part of the
payload that the sender put there. The loop over the fragments sends the parts of the payload in
order, each but the last of 1480 bytes.
-/

namespace NeuroSpark

open Network

section

variable {l l' : List UInt8} {n : Nat}

lemma getD_append_length (h : l.length = n) (i : Nat) (d : UInt8) :
    (l ++ l').getD (n + i) d = l'.getD i d := by
  subst h
  simp [List.getD, List.getElem?_append_right]

lemma readBe16_append (h : l.length = n) (i : Nat) :
    readBe16 (l ++ l') (n + i) = readBe16 l' i := by
  unfold readBe16
  rw [Nat.add_assoc, getD_append_length h, getD_append_length h]

lemma readBe32_append (h : l.length = n) (i : Nat) :
    readBe32 (l ++ l') (n + i) = readBe32 l' i := by
  unfold readBe32
  simp only [Nat.add_assoc, getD_append_length h]

end

section

variable {c totalLen flags : Nat} {ident : UInt16} {ttl protocol : UInt8} {src dst : UInt32}
  {rest : List UInt8}

@[simp] lemma length_ipv4HeaderWith :
    (ipv4HeaderWith c totalLen ident flags ttl protocol src dst).length = 20 := rfl

@[simp] lemma length_ipv4Header :
    (ipv4Header totalLen ident flags ttl protocol src dst).length = 20 := rfl

lemma internetChecksum_ipv4Header :
    internetChecksum (ipv4Header totalLen ident flags ttl protocol src dst) = 0 :=
  internetChecksum_verifies
    ([0x45, 0x00] ++ be16 totalLen ++ be16 ident.toNat ++ be16 flags ++ [ttl, protocol])
    (be32 src ++ be32 dst) (by simp)

lemma ipv4HeaderWith_totalLen (h : totalLen < 65536) :
    readBe16 (ipv4HeaderWith c totalLen ident flags ttl protocol src dst ++ rest) 2 = totalLen :=
  be16_value h

lemma ipv4HeaderWith_ident :
    UInt16.ofNat (readBe16
      (ipv4HeaderWith c totalLen ident flags ttl protocol src dst ++ rest) 4) = ident := by
  have hread : readBe16 (ipv4HeaderWith c totalLen ident flags ttl protocol src dst ++ rest) 4 =
      ident.toNat := be16_value ident.toNat_lt
  rw [hread, UInt16.ofNat_toNat]

lemma ipv4HeaderWith_flags (h : flags < 65536) :
    readBe16 (ipv4HeaderWith c totalLen ident flags ttl protocol src dst ++ rest) 6 = flags :=
  be16_value h

lemma ipv4HeaderWith_protocol :
    (ipv4HeaderWith c totalLen ident flags ttl protocol src dst ++ rest).getD 9 0 = protocol := rfl

lemma ipv4HeaderWith_headerLen :
    ((ipv4HeaderWith c totalLen ident flags ttl protocol src dst ++ rest).getD 0 0 &&&
      0x0F).toNat * 4 = 20 := by
  have hfirst : (ipv4HeaderWith c totalLen ident flags ttl protocol src dst ++ rest).getD 0 0 =
      0x45 := rfl
  rw [hfirst]
  decide

lemma ipv4HeaderWith_src :
    readBe32 (ipv4HeaderWith c totalLen ident flags ttl protocol src dst ++ rest) 12 = src :=
  be32_value src

lemma ipv4HeaderWith_dst :
    readBe32 (ipv4HeaderWith c totalLen ident flags ttl protocol src dst ++ rest) 16 = dst :=
  be32_value dst

end

/-! ### Frames -/

section

variable {dstMac rtlMac : Mac} {totalLen flags : Nat} {ident : UInt16} {ttl protocol : UInt8}
  {src dst : UInt32} {payload : List UInt8}

lemma ipv4Frame_eq (dstMac rtlMac : Mac) (header payload : List UInt8) : ∃ pad,
    ipv4Frame dstMac rtlMac header payload =
      (dstMac.1 ++ rtlMac.1 ++ be16 ethTypeIpv4) ++ (header ++ (payload ++ pad)) :=
  ⟨_, by simp only [ipv4Frame, padFrame, List.append_assoc]; rfl⟩

lemma length_ethHeader (dstMac rtlMac : Mac) :
    (dstMac.1 ++ rtlMac.1 ++ be16 ethTypeIpv4).length = 14 := by
  simp [dstMac.2, rtlMac.2]

lemma length_ipv4Frame_le (header payload : List UInt8)
    (h : header.length + payload.length ≤ 1500) :
    (ipv4Frame dstMac rtlMac header payload).length ≠ 0 ∧
      (ipv4Frame dstMac rtlMac header payload).length ≤ 1514 := by
  have hpre := length_ethHeader dstMac rtlMac
  simp only [ipv4Frame, padFrame, List.length_append, List.length_replicate] at hpre ⊢
  omega

lemma ipv4Frame_ok (hlen : payload.length ≤ 1480) (htotal : totalLen = 20 + payload.length) :
    Ipv4FrameOk (ipv4Frame dstMac rtlMac
      (ipv4Header totalLen ident flags ttl protocol src dst) payload) := by
  obtain ⟨pad, hframe⟩ := ipv4Frame_eq dstMac rtlMac
    (ipv4Header totalLen ident flags ttl protocol src dst) payload
  have hpre := length_ethHeader dstMac rtlMac
  rw [hframe]
  generalize dstMac.1 ++ rtlMac.1 ++ be16 ethTypeIpv4 = pre at hpre
  have hfirst : (pre ++ (ipv4Header totalLen ident flags ttl protocol src dst ++
      (payload ++ pad))).getD 14 0 = 0x45 := getD_append_length hpre 0 0
  have hread : readBe16 (pre ++ (ipv4Header totalLen ident flags ttl protocol src dst ++
      (payload ++ pad))) 16 = totalLen :=
    (readBe16_append hpre 2).trans (ipv4HeaderWith_totalLen (by omega))
  have hdrop : (pre ++ (ipv4Header totalLen ident flags ttl protocol src dst ++
      (payload ++ pad))).drop 14 =
      ipv4Header totalLen ident flags ttl protocol src dst ++ (payload ++ pad) :=
    List.drop_left' hpre
  have htake : (ipv4Header totalLen ident flags ttl protocol src dst ++ (payload ++ pad)).take 20 =
      ipv4Header totalLen ident flags ttl protocol src dst := List.take_left' length_ipv4Header
  simp only [Ipv4FrameOk, hfirst, hread, hdrop, List.length_append, hpre, length_ipv4Header]
  refine ⟨by omega, by decide, by decide, by decide, ?_, ?_, by omega, ?_⟩
  · change 14 + 20 ≤ _
    omega
  · change 20 ≤ totalLen
    omega
  · change internetChecksum (List.take 20 _) = 0
    rw [htake, internetChecksum_ipv4Header]

/-- What was put into a frame is what is taken out of it. -/
lemma ipv4FragmentOf_ipv4Frame (hlen : payload.length ≤ 1480)
    (htotal : totalLen = 20 + payload.length) (hflags : flags < 65536) :
    ipv4FragmentOf (ipv4Frame dstMac rtlMac
      (ipv4Header totalLen ident flags ttl protocol src dst) payload) =
      ⟨src, dst, protocol, ident, flags, ipv4Header totalLen ident flags ttl protocol src dst,
        payload⟩ := by
  obtain ⟨pad, hframe⟩ := ipv4Frame_eq dstMac rtlMac
    (ipv4Header totalLen ident flags ttl protocol src dst) payload
  have hpre := length_ethHeader dstMac rtlMac
  rw [hframe]
  generalize dstMac.1 ++ rtlMac.1 ++ be16 ethTypeIpv4 = pre at hpre
  generalize hheader : ipv4Header totalLen ident flags ttl protocol src dst = header
  have hlength : header.length = 20 := by rw [← hheader, length_ipv4Header]
  have hfirst : (pre ++ (header ++ (payload ++ pad))).getD 14 0 = 0x45 := by
    rw [← hheader]
    exact getD_append_length hpre 0 0
  have htotalLen : readBe16 (pre ++ (header ++ (payload ++ pad))) 16 = totalLen := by
    rw [← hheader]
    exact (readBe16_append hpre 2).trans (ipv4HeaderWith_totalLen (by omega))
  have hheaderLen : (0x45 &&& 0x0F : UInt8).toNat * 4 = 20 := by decide
  simp only [ipv4FragmentOf, hfirst, htotalLen, hheaderLen, Ipv4Fragment.mk.injEq]
  refine ⟨?_, ?_, ?_, ?_, ?_, ?_, ?_⟩
  · rw [← hheader]
    exact (readBe32_append hpre 12).trans ipv4HeaderWith_src
  · rw [← hheader]
    exact (readBe32_append hpre 16).trans ipv4HeaderWith_dst
  · rw [← hheader]
    exact getD_append_length hpre 9 0
  · rw [← hheader]
    exact (congrArg UInt16.ofNat (readBe16_append hpre 4)).trans ipv4HeaderWith_ident
  · rw [← hheader]
    exact (readBe16_append hpre 6).trans (ipv4HeaderWith_flags hflags)
  · rw [List.drop_left' hpre, List.take_left' hlength]
  · have hsplit : pre ++ (header ++ (payload ++ pad)) = (pre ++ header) ++ (payload ++ pad) := by
      simp only [List.append_assoc]
    rw [hsplit, List.drop_left' (by simp [hpre, hlength]), htotal, Nat.add_sub_cancel_left,
      List.takeD_left]

end

lemma ipv4Frame_ethType (dstMac rtlMac : Mac) (header payload : List UInt8) :
    readBe16 (ipv4Frame dstMac rtlMac header payload) 12 = ethTypeIpv4 := by
  have hmacs : (dstMac.1 ++ rtlMac.1).length = 12 := by simp [dstMac.2, rtlMac.2]
  have hframe : ipv4Frame dstMac rtlMac header payload =
      (dstMac.1 ++ rtlMac.1) ++ (be16 ethTypeIpv4 ++ (header ++ (payload ++
        List.replicate (60 - (dstMac.1 ++ rtlMac.1 ++ be16 ethTypeIpv4 ++ header ++
          payload).length) 0))) := by
    simp only [ipv4Frame, padFrame, List.append_assoc]
  rw [hframe]
  exact (readBe16_append hmacs 0).trans (readBe16_be16 (by decide) _)

lemma netSendArpRequest_tx (s : Net) (targetIp : UInt32) :
    ∃ arp : List (List UInt8), (∀ frame ∈ arp, readBe16 frame 12 ≠ ethTypeIpv4) ∧
      (netSendArpRequest s targetIp).1 = s.send arp := by
  unfold netSendArpRequest netSendArpPacket rtl8139SendFrame
  split_ifs
  · exact ⟨[], by simp, by simp⟩
  · exact ⟨[], by simp, by simp⟩
  · exact ⟨[], by simp, by simp⟩
  · refine ⟨[_], fun frame hframe => ?_, rfl⟩
    rw [List.mem_singleton] at hframe
    subst hframe
    have hmacs : (broadcastMac.1 ++ s.rtlMac.1).length = 12 := by simp [broadcastMac.2, s.rtlMac.2]
    simp only [List.append_assoc]
    rw [← List.append_assoc]
    have hread : ∀ l, readBe16 ((broadcastMac.1 ++ s.rtlMac.1) ++ (be16 ethTypeArp ++ l)) 12 =
        ethTypeArp := fun l => (readBe16_append hmacs 0).trans (readBe16_be16 (by decide) l)
    rw [hread]
    decide

/-! ### The loop over the fragments -/

lemma fragPayload_eq (remain : Nat) : fragPayload remain = min remain 1480 := by
  have hmtu : (ipv4EthMtu - 20) / 8 * 8 = 1480 := rfl
  simp only [fragPayload, hmtu]
  by_cases hmore : remain > 1480
  · rw [if_pos hmore]
    split_ifs <;> omega
  · rw [if_neg hmore, if_neg (fun h => h rfl)]
    omega

/-- The frame with the fragment at an offset. -/
def fragmentFrame (s : Net) (dstMac : Mac) (dstIp : UInt32) (protocol : UInt8)
    (payload : List UInt8) (ttl : UInt8) (ident : UInt16) (offset : Nat) : List UInt8 :=
  let fragLen := fragPayload (payload.length - offset)
  ipv4Frame dstMac s.rtlMac
    (ipv4Header (20 + fragLen) ident (flagsOff offset fragLen payload.length) ttl protocol s.netIp
      dstIp)
    ((payload.drop offset).take fragLen)

def fragCount (payload : List UInt8) : Nat := (payload.length + 1479) / 1480

/-- The fragments of a payload, in the order in which they are sent. -/
def fragmentFrames (s : Net) (dstMac : Mac) (dstIp : UInt32) (protocol : UInt8)
    (payload : List UInt8) (ttl : UInt8) (ident : UInt16) : List (List UInt8) :=
  (List.range (fragCount payload)).map fun k =>
    fragmentFrame s dstMac dstIp protocol payload ttl ident (1480 * k)

section

variable {s : Net} {dstMac : Mac} {dstIp : UInt32} {protocol : UInt8} {payload : List UInt8}
  {ttl : UInt8} {ident : UInt16}

lemma fragmentFrames_congr {s' : Net} (hmac : s'.rtlMac = s.rtlMac) (hip : s'.netIp = s.netIp) :
    fragmentFrames s' dstMac dstIp protocol payload ttl ident =
      fragmentFrames s dstMac dstIp protocol payload ttl ident := by
  unfold fragmentFrames fragmentFrame
  rw [hmac, hip]

lemma rtl8139SendFrame_ready (hready : s.netReady = true) (hbase : s.rtlIobase ≠ 0)
    {frame : List UInt8} (hlen : frame.length ≠ 0 ∧ frame.length ≤ 1514) :
    rtl8139SendFrame s frame = (s.send [frame], true) := by
  simp [rtl8139SendFrame, hready, hbase, hlen.1, Nat.not_lt.2 hlen.2]

lemma rtl8139SendFrame_snd {frame : List UInt8} (hlen : frame.length ≠ 0 ∧ frame.length ≤ 1514) :
    (rtl8139SendFrame s frame).2 = true ↔ s.netReady = true ∧ s.rtlIobase ≠ 0 := by
  constructor
  · intro hsent
    unfold rtl8139SendFrame at hsent
    split_ifs at hsent with hcard
    simpa using hcard
  · rintro ⟨hready, hbase⟩
    rw [rtl8139SendFrame_ready hready hbase hlen]

lemma length_fragmentFrame (offset : Nat) :
    (fragmentFrame s dstMac dstIp protocol payload ttl ident offset).length ≠ 0 ∧
      (fragmentFrame s dstMac dstIp protocol payload ttl ident offset).length ≤ 1514 := by
  refine length_ipv4Frame_le _ _ ?_
  simp only [length_ipv4Header, List.length_take, List.length_drop, fragPayload_eq]
  omega

lemma sendFragments_of_lt (hready : s.netReady = true) (hbase : s.rtlIobase ≠ 0) {offset : Nat}
    (h : offset < payload.length) :
    sendFragments s dstMac dstIp protocol payload ttl ident offset =
      sendFragments (s.send [fragmentFrame s dstMac dstIp protocol payload ttl ident offset]) dstMac
        dstIp protocol payload ttl ident (offset + fragPayload (payload.length - offset)) := by
  have hpos : fragPayload (payload.length - offset) ≠ 0 := by
    rw [fragPayload_eq]
    omega
  have hsent : rtl8139SendFrame s (fragmentFrame s dstMac dstIp protocol payload ttl ident offset) =
      (s.send [fragmentFrame s dstMac dstIp protocol payload ttl ident offset], true) :=
    rtl8139SendFrame_ready hready hbase (length_fragmentFrame offset)
  rw [fragmentFrame] at hsent
  rw [sendFragments, dif_pos h, dif_neg hpos]
  simp only [hsent, if_true]
  rfl

/-- From each fragment on, the loop sends the rest of them. -/
lemma sendFragments_eq (hready : s.netReady = true) (hbase : s.rtlIobase ≠ 0) {k : Nat}
    (hk : k ≤ fragCount payload) :
    sendFragments s dstMac dstIp protocol payload ttl ident (1480 * k) =
      (s.send ((List.range' k (fragCount payload - k)).map fun k =>
        fragmentFrame s dstMac dstIp protocol payload ttl ident (1480 * k)), true) := by
  obtain ⟨d, hd⟩ : ∃ d, d = fragCount payload - k := ⟨_, rfl⟩
  rw [← hd]
  induction d generalizing s k with
  | zero =>
    have hdone : ¬ 1480 * k < payload.length := by
      unfold fragCount at hd hk
      omega
    rw [sendFragments, dif_neg hdone]
    simp
  | succ d ih =>
    have hmore : 1480 * k < payload.length := by
      unfold fragCount at hd
      omega
    rw [sendFragments_of_lt hready hbase hmore]
    have hrange : List.range' k (d + 1) = k :: List.range' (k + 1) d := rfl
    rw [hrange, List.map_cons]
    by_cases hlast : payload.length ≤ 1480 * (k + 1)
    · -- the last fragment ends with the payload
      have hend : 1480 * k + fragPayload (payload.length - 1480 * k) = payload.length := by
        rw [fragPayload_eq]
        omega
      have hd0 : d = 0 := by
        unfold fragCount at hd
        omega
      rw [hend, sendFragments, dif_neg (lt_irrefl _), hd0]
      simp
    · have hfull : 1480 * k + fragPayload (payload.length - 1480 * k) = 1480 * (k + 1) := by
        rw [fragPayload_eq]
        omega
      have hk' : k + 1 ≤ fragCount payload := by
        unfold fragCount
        omega
      rw [hfull, ih (s := s.send _) hready hbase hk' (by omega), Net.send_send]
      rfl

end

end NeuroSpark
