import NeuroSpark.Net.Delivery
import NeuroSpark.Net.Entries
import NeuroSpark.Net.Peers

/-!
# A segment on the wire

What the sender of TCP puts into a frame is what the receiver of the frame takes out of it.
-/

namespace NeuroSpark

open Network

section

variable {t : Tcp} {c : Nat} {srcIp dstIp : UInt32} {srcPort dstPort : UInt16} {seq ack : UInt32}
  {flags : UInt8} {payload : List UInt8}

lemma tcpSegmentWith_srcPort : UInt16.ofNat (readBe16
    (tcpSegmentWith c srcPort dstPort seq ack flags payload) 0) = srcPort := by
  have hread : readBe16 (tcpSegmentWith c srcPort dstPort seq ack flags payload) 0 =
      srcPort.toNat := be16_value srcPort.toNat_lt
  rw [hread, UInt16.ofNat_toNat]

lemma tcpSegmentWith_dstPort : UInt16.ofNat (readBe16
    (tcpSegmentWith c srcPort dstPort seq ack flags payload) 2) = dstPort := by
  have hread : readBe16 (tcpSegmentWith c srcPort dstPort seq ack flags payload) 2 =
      dstPort.toNat := be16_value dstPort.toNat_lt
  rw [hread, UInt16.ofNat_toNat]

lemma tcpSegmentWith_seq :
    readBe32 (tcpSegmentWith c srcPort dstPort seq ack flags payload) 4 = seq := be32_value seq

lemma tcpSegmentWith_ack :
    readBe32 (tcpSegmentWith c srcPort dstPort seq ack flags payload) 8 = ack := be32_value ack

lemma tcpSegmentWith_flags :
    (tcpSegmentWith c srcPort dstPort seq ack flags payload).getD 13 0 = flags := rfl

lemma tcpSegmentWith_hdrLen :
    tcpHdrLen (tcpSegmentWith c srcPort dstPort seq ack flags payload) = 20 := by
  have hbyte : (tcpSegmentWith c srcPort dstPort seq ack flags payload).getD 12 0 = 0x50 := rfl
  rw [tcpHdrLen, hbyte]
  decide

lemma tcpSegmentWith_payload :
    (tcpSegmentWith c srcPort dstPort seq ack flags payload).drop 20 = payload := rfl

lemma internetChecksum_tcpSegment :
    internetChecksum (tcpPseudoHeader srcIp dstIp (20 + payload.length) ++
      tcpSegment srcIp dstIp srcPort dstPort seq ack flags payload) = 0 := by
  have hverifies := internetChecksum_verifies
    (tcpPseudoHeader srcIp dstIp (20 + payload.length) ++ (be16 srcPort.toNat ++
      be16 dstPort.toNat ++ be32 seq ++ be32 ack ++ [0x50, flags] ++ be16 4096))
    (be16 0 ++ payload) (by simp [tcpPseudoHeader])
  simpa only [tcpSegment, tcpSegmentWith, List.append_assoc] using hverifies

lemma tcpChecksumValid_tcpSegment (hlen : payload.length ≤ 1300) : tcpChecksumValid srcIp dstIp
    (tcpSegment srcIp dstIp srcPort dstPort seq ack flags payload) = true := by
  have hlength : (tcpSegment srcIp dstIp srcPort dstPort seq ack flags payload).length =
      20 + payload.length := length_tcpSegment
  rw [tcpChecksumValid, hlength, decide_eq_true_iff]
  exact ⟨by omega, by omega, internetChecksum_tcpSegment⟩

lemma tcpDecode_tcpSegment (hlen : payload.length ≤ 1300) : tcpDecode srcIp dstIp
    (tcpSegment srcIp dstIp srcPort dstPort seq ack flags payload) =
      some ⟨srcPort, dstPort, seq, ack, flags, payload⟩ := by
  have hlength : (tcpSegment srcIp dstIp srcPort dstPort seq ack flags payload).length =
      20 + payload.length := length_tcpSegment
  have hvalid : tcpChecksumValid srcIp dstIp
      (tcpSegment srcIp dstIp srcPort dstPort seq ack flags payload) = true :=
    tcpChecksumValid_tcpSegment hlen
  have hhdr : tcpHdrLen (tcpSegment srcIp dstIp srcPort dstPort seq ack flags payload) = 20 :=
    tcpSegmentWith_hdrLen
  rw [tcpDecode, hlength, hvalid, hhdr, if_neg (by simp)]
  unfold tcpSegment
  rw [tcpSegmentWith_srcPort, tcpSegmentWith_dstPort, tcpSegmentWith_seq, tcpSegmentWith_ack,
    tcpSegmentWith_flags, tcpSegmentWith_payload]

/-- The frame that a segment is sent in. -/
def tcpFrame (t : Tcp) (mac : Mac) (dstIp : UInt32) (srcPort dstPort : UInt16) (seq ack : UInt32)
    (flags : UInt8) (payload : List UInt8) : List UInt8 :=
  ipv4Frame mac t.net.rtlMac
    (ipv4Header (40 + payload.length) t.issSeed.toUInt16 0 64 ipProtoTcp t.net.netIp dstIp)
    (tcpSegment t.net.netIp dstIp srcPort dstPort seq ack flags payload)

lemma tcpSendSegment_sent (hready : t.net.CardReady) (hlen : payload.length ≤ 1300) :
    ∃ (mac : Mac) (arp : List (List UInt8)), (∀ frame ∈ arp, readBe16 frame 12 ≠ ethTypeIpv4) ∧
      (tcpSendSegment t dstIp srcPort dstPort seq ack flags payload).1.net.tx =
        t.net.tx ++ (arp ++ [tcpFrame t mac dstIp srcPort dstPort seq ack flags payload]) := by
  have hnot : ¬ ((!t.net.netReady) = true ∨ payload.length > 1300) := by
    simp [hready.1, hlen]
  unfold tcpSendSegment
  rw [if_neg hnot]
  dsimp only
  generalize hr : (if dstIp ≠ 0xFFFFFFFF then _ else _ : Net × Mac) = r
  obtain ⟨arp, harp, hasked⟩ : ∃ arp : List (List UInt8),
      (∀ frame ∈ arp, readBe16 frame 12 ≠ ethTypeIpv4) ∧ r.1 = t.net.send arp := by
    rw [← hr]
    split
    · split
      · exact ⟨[], by simp, by rw [Net.send_nil]⟩
      · exact netSendArpRequest_tx t.net (netRouteNextHop t.net dstIp)
    · exact ⟨[], by simp, by rw [Net.send_nil]⟩
  refine ⟨r.2, arp, harp, ?_⟩
  have hlength : (ipv4Header (40 + payload.length) t.issSeed.toUInt16 0 64 ipProtoTcp t.net.netIp
      dstIp).length + (tcpSegment t.net.netIp dstIp srcPort dstPort seq ack flags payload).length ≤
      1500 := by
    rw [length_ipv4Header, length_tcpSegment]
    omega
  rw [hasked, rtl8139SendFrame_ready (s := t.net.send arp) hready.1 hready.2
    (length_ipv4Frame_le _ _ hlength)]
  simp only [Net.send, List.append_assoc]
  rfl

lemma length_tcpFrame (mac : Mac) (hlen : payload.length ≤ 1300) :
    (tcpFrame t mac dstIp srcPort dstPort seq ack flags payload).length =
      max 60 (54 + payload.length) := by
  have hlength : (tcpSegment t.net.netIp dstIp srcPort dstPort seq ack flags payload).length =
      20 + payload.length := length_tcpSegment
  have hpre := length_ethHeader mac t.net.rtlMac
  simp only [tcpFrame, ipv4Frame, padFrame, List.length_append, List.length_replicate,
    length_ipv4Header, hlength] at hpre ⊢
  omega

lemma segmentOf_tcpFrame (mac : Mac) (hlen : payload.length ≤ 1300) {r : Net}
    (hr : r.netIp = dstIp) :
    Sockets.segmentOf r (tcpFrame t mac dstIp srcPort dstPort seq ack flags payload) =
      some ⟨t.net.netIp, dstIp, ipProtoTcp,
        tcpSegment t.net.netIp dstIp srcPort dstPort seq ack flags payload⟩ := by
  have hframe : (tcpFrame t mac dstIp srcPort dstPort seq ack flags payload).length =
      max 60 (54 + payload.length) := length_tcpFrame mac hlen
  have htype : readBe16 (tcpFrame t mac dstIp srcPort dstPort seq ack flags payload) 12 =
      ethTypeIpv4 := ipv4Frame_ethType ..
  have hlong : ¬ ((tcpFrame t mac dstIp srcPort dstPort seq ack flags payload).length < 14 ∨
      readBe16 (tcpFrame t mac dstIp srcPort dstPort seq ack flags payload) 12 ≠ ethTypeIpv4) := by
    rw [hframe, htype]
    simp
  rw [Sockets.segmentOf, if_neg hlong, tcpFrame]
  generalize hsegment : tcpSegment t.net.netIp dstIp srcPort dstPort seq ack flags payload = segment
  have hlength : segment.length = 20 + payload.length := by
    rw [← hsegment, length_tcpSegment]
  have htotal : 40 + payload.length = 20 + segment.length := by omega
  obtain ⟨r', -, hhandled⟩ : ∃ r', r.SameUdp r' ∧ netHandleIpv4Frame r (ipv4Frame mac t.net.rtlMac
      (ipv4Header (20 + segment.length) t.issSeed.toUInt16 0 64 ipProtoTcp t.net.netIp dstIp)
      segment) = (r', some ⟨t.net.netIp, dstIp, ipProtoTcp, segment⟩) :=
    netHandleIpv4Frame_whole (by omega) (Or.inl hr.symm)
  rw [htotal, hhandled]
  simp [Option.filter, hlength]

/-- A segment that is sent arrives. The last frame that is sent passes the checks of a receiver that
has the address the segment is for; so does the segment in it, and its fields and its payload are
those that were sent. -/
theorem tcpSegment_arrives (hready : t.net.CardReady) (hlen : payload.length ≤ 1300) :
    ∃ (arp : List (List UInt8)) (frame : List UInt8),
      (∀ frame ∈ arp, readBe16 frame 12 ≠ ethTypeIpv4) ∧
      (tcpSendSegment t dstIp srcPort dstPort seq ack flags payload).1.net.tx =
        t.net.tx ++ (arp ++ [frame]) ∧
      frame.length = max 60 (54 + payload.length) ∧ Ipv4FrameOk frame ∧
      ∀ r : Tcp, r.net.netIp = dstIp → ∃ d, Sockets.segmentOf r.net frame = some d ∧
        (d.srcIp, d.dstIp) = (t.net.netIp, dstIp) ∧
        tcpChecksumValid d.srcIp d.dstIp d.payload = true ∧
        tcpDecode d.srcIp d.dstIp d.payload = some ⟨srcPort, dstPort, seq, ack, flags, payload⟩ ∧
        Sockets.handleFrame r frame = tcpDeliver { r with net := netHandleEthFrame r.net frame }
          t.net.netIp ⟨srcPort, dstPort, seq, ack, flags, payload⟩ := by
  obtain ⟨mac, arp, harp, hsent⟩ : ∃ (mac : Mac) (arp : List (List UInt8)),
      (∀ frame ∈ arp, readBe16 frame 12 ≠ ethTypeIpv4) ∧
        (tcpSendSegment t dstIp srcPort dstPort seq ack flags payload).1.net.tx =
          t.net.tx ++ (arp ++ [tcpFrame t mac dstIp srcPort dstPort seq ack flags payload]) :=
    tcpSendSegment_sent hready hlen
  refine ⟨arp, _, harp, hsent, length_tcpFrame mac hlen, ?_, fun r hr => ?_⟩
  · refine ipv4Frame_ok ?_ ?_
    · rw [length_tcpSegment]
      omega
    · rw [length_tcpSegment]
      omega
  · have hsegment : Sockets.segmentOf r.net
        (tcpFrame t mac dstIp srcPort dstPort seq ack flags payload) =
        some ⟨t.net.netIp, dstIp, ipProtoTcp,
          tcpSegment t.net.netIp dstIp srcPort dstPort seq ack flags payload⟩ :=
      segmentOf_tcpFrame mac hlen hr
    refine ⟨_, hsegment, rfl, tcpChecksumValid_tcpSegment hlen, tcpDecode_tcpSegment hlen, ?_⟩
    rw [Sockets.handleFrame, hsegment]
    dsimp only
    rw [netHandleTcpSegment_eq, tcpDecode_tcpSegment hlen]

end

/-- A segment with one byte, from 10.0.2.15 to 10.0.2.16. -/
theorem tcpSegment_arrives_short : ∃ (arp : List (List UInt8)) (frame : List UInt8),
    (tcpSendSegment Sockets.booted.tcp 0x0A000210 40000 80 1 2 tcpFlagAck [104]).1.net.tx =
      arp ++ [frame] ∧ frame.length = 60 := by
  have hready : Sockets.booted.tcp.net.CardReady := by decide
  obtain ⟨arp, frame, -, hsent, hlength, -⟩ :=
    @tcpSegment_arrives Sockets.booted.tcp 0x0A000210 40000 80 1 2 tcpFlagAck [104] hready
      (by decide)
  exact ⟨arp, frame, hsent, hlength⟩

end NeuroSpark
