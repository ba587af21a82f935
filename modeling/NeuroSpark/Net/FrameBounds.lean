import NeuroSpark.Net.Entries
import NeuroSpark.Net.Leftovers

/-!
# Where a received packet is read

The total length of a packet is a word of 16 bits, and so is its sum with the length of the Ethernet
header that is compared with the length of the frame. A total length near 65536 passes the check and
is longer than the frame. The reads of the handlers, and the buffers that they pass on, lie inside
the frame or the buffer of reassembly, but for some of the packets with such a length.
-/

namespace NeuroSpark

open Network

/-- The frame that was received, and the buffer that a datagram is put together in. -/
inductive PacketBuffer where
  | frame
  | assembled
  deriving DecidableEq

/-- Some bytes of a buffer are read, or they are passed on: to the queue of a port, to a connection,
to the answer of an echo request, or to be forwarded. -/
inductive PacketAccess where
  | read (buffer : PacketBuffer) (off len : Nat)
  | pass (buffer : PacketBuffer) (off len : Nat)
  deriving DecidableEq

/-- `uint8_t assembled[IPV4_MAX_HEADER + IPV4_REASS_MAX_PAYLOAD]` -/
def PacketBuffer.size (frameLen : Nat) : PacketBuffer → Nat
  | .frame => frameLen
  | .assembled => ipv4MaxHeader + ipv4ReassMaxPayload

/-- The bytes lie inside the buffer. -/
def PacketAccess.Inside (frameLen : Nat) : PacketAccess → Prop
  | .read buffer off len | .pass buffer off len => off + len ≤ buffer.size frameLen

@[simp] lemma inside_read_frame (n off len : Nat) :
    (PacketAccess.read .frame off len).Inside n ↔ off + len ≤ n := Iff.rfl

@[simp] lemma inside_pass_frame (n off len : Nat) :
    (PacketAccess.pass .frame off len).Inside n ↔ off + len ≤ n := Iff.rfl

/-- A frame in memory, and what is behind it. -/
def frameMemory (frame : List UInt8) (behind : Nat → UInt8) (i : Nat) : UInt8 :=
  if i < frame.length then frame.getD i 0 else behind (i - frame.length)

/-- The word at an address. -/
def be16At (mem : Nat → UInt8) (off : Nat) : Nat := (mem off).toNat * 256 + (mem (off + 1)).toNat

def bytesAt (mem : Nat → UInt8) (off len : Nat) : List UInt8 :=
  (List.range len).map fun k => mem (off + k)

section

variable (buffer : PacketBuffer) (mem : Nat → UInt8) (srcIp dstIp : UInt32)

/-- The accesses for an ICMP message, with those of `net_send_icmp_echo_reply`. -/
def icmpAccesses (netReady : Bool) (off icmpLen : Nat) : List PacketAccess :=
  if icmpLen < 8 then []
  else .read buffer off 1 ::
    if mem off ≠ 8 then []
    else .read buffer (off + 1) 1 ::
      if mem (off + 1) ≠ 0 then []
      else .pass buffer off icmpLen ::
        if !netReady ∨ icmpLen > ipv4ReassMaxPayload then [] else [.read buffer off icmpLen]

/-- The accesses of `net_handle_udp_datagram`. -/
def udpAccesses (off udpLen : Nat) : List PacketAccess :=
  let headerLen := be16At mem (off + 4)
  if udpLen < 8 then []
  else .read buffer off 8 ::
    if headerLen < 8 ∨ headerLen > udpLen then []
    else if be16At mem (off + 6) = 0 then [.pass buffer (off + 8) (headerLen - 8)]
    else if (12 + headerLen) % 65536 > 1600 then []
    else .read buffer off headerLen ::
      if internetChecksum (be32 srcIp ++ be32 dstIp ++ [0, ipProtoUdp] ++ be16 headerLen ++
        bytesAt mem off headerLen) ≠ 0 then []
      else [.pass buffer (off + 8) (headerLen - 8)]

/-- The accesses of `net_handle_tcp_segment`. -/
def tcpAccesses (off tcpLen : Nat) : List PacketAccess :=
  let hdrLen := tcpHdrLen (bytesAt mem off tcpLen)
  if tcpLen < 20 then []
  else if (12 + tcpLen) % 65536 > 1600 then []
  else .read buffer off tcpLen ::
    if internetChecksum (tcpPseudoHeader srcIp dstIp tcpLen ++ bytesAt mem off tcpLen) ≠ 0 then []
    else .read buffer off 14 ::
      if hdrLen < 20 ∨ hdrLen > tcpLen then []
      else [.pass buffer (off + hdrLen) (tcpLen - hdrLen)]

def handlerAccesses (netReady : Bool) (protocol : UInt8) (off len : Nat) : List PacketAccess :=
  if protocol = ipProtoIcmp then icmpAccesses buffer mem netReady off len
  else if protocol = ipProtoUdp then udpAccesses buffer mem srcIp dstIp off len
  else if protocol = ipProtoTcp then tcpAccesses buffer mem srcIp dstIp off len
  else []

end

/-- The accesses of `net_forward_ipv4_packet`, to which the packet is passed. -/
def forwardAccesses (s : Net) (frame : List UInt8) (totalLen : Nat) : List PacketAccess :=
  let ihl := (frame.getD 14 0 &&& 0x0F).toNat * 4
  .pass .frame 14 totalLen ::
    if !s.netReady ∨ totalLen < 20 ∨ totalLen > ipv4EthMtu then []
    else .read .frame 14 1 ::
      if ihl < 20 ∨ ihl > totalLen then []
      else .read .frame 22 1 ::
        if frame.getD 22 0 ≤ 1 then []
        else .read .frame 30 4 ::
          if (routeLookup s (readBe32 frame 30)).isNone then [] else [.read .frame 14 totalLen]

/-- The accesses for a fragment, and for the packet that it completes. -/
def fragmentAccesses (s : Net) (f : Ipv4Fragment) (headerLen : Nat) : List PacketAccess :=
  (if f.Accepted then
    (if f.fragOffset = 0 then [.read .frame 14 headerLen] else []) ++
      if 0 < f.payload.length then [.read .frame (14 + headerLen) f.payload.length] else []
  else []) ++
    match (ipv4ReassemblePacket s.tick (ipv4ReassemblyGc s.tick s.ipv4Reass) f).2 with
    | none => []
    | some packet =>
      let d := ipv4DatagramOf packet
      let headerLen := (packet.getD 0 0 &&& 0x0F).toNat * 4
      .read .assembled 0 1 ::
        if packet.length < headerLen then []
        else .read .assembled 9 1 :: .read .assembled 12 8 ::
          if ¬ ForUs s d.dstIp then []
          else handlerAccesses .assembled (packet.getD · 0) d.srcIp d.dstIp s.netReady d.protocol
            headerLen (packet.length - headerLen)

/-- The accesses of `net_handle_ipv4_frame`. -/
def ipv4FrameAccesses (s : Net) (frame : List UInt8) (behind : Nat → UInt8) : List PacketAccess :=
  let headerLen := (frame.getD 14 0 &&& 0x0F).toNat * 4
  let totalLen := readBe16 frame 16
  let f := ipv4FragmentOf frame
  if frame.length < 34 then []
  else .read .frame 14 1 ::
    if frame.getD 14 0 >>> 4 ≠ 4 ∨ headerLen < 20 ∨ headerLen > 60 ∨
      frame.length < 14 + headerLen then []
    else .read .frame 16 2 ::
      if totalLen < headerLen ∨ frame.length < (14 + totalLen) % 65536 then []
      else .read .frame 14 headerLen ::
        if internetChecksum ((frame.drop 14).take headerLen) ≠ 0 then []
        else .read .frame 6 6 :: .read .frame 18 16 ::
          if ¬ ForUs s f.dstIp then forwardAccesses s frame totalLen
          else if f.fragOffFlags &&& 0x3FFF ≠ 0 then fragmentAccesses s f headerLen
          else handlerAccesses .frame (frameMemory frame behind) f.srcIp f.dstIp s.netReady f.proto
            (14 + headerLen) (totalLen - headerLen)

/-- The total length goes past the frame, and wraps around in the check of it. -/
def Ipv4Wraps (frame : List UInt8) : Prop := 65536 ≤ 14 + readBe16 frame 16

/-- The type is in the frame and is not that of an echo request, or the code is and is not. -/
def IcmpInside (frame : List UInt8) : Prop :=
  let off := 14 + (frame.getD 14 0 &&& 0x0F).toNat * 4
  off < frame.length ∧
    (frame.getD off 0 ≠ 8 ∨ off + 1 < frame.length ∧ frame.getD (off + 1) 0 ≠ 0)

/-- The header is in the frame, and so is the datagram, unless it is refused before it is read. -/
def UdpInside (frame : List UInt8) : Prop :=
  let headerLen := (frame.getD 14 0 &&& 0x0F).toNat * 4
  let off := 14 + headerLen
  let len := readBe16 frame (off + 4)
  off + 8 ≤ frame.length ∧ (len < 8 ∨ readBe16 frame 16 - headerLen < len ∨
    off + len ≤ frame.length ∨ readBe16 frame (off + 6) ≠ 0 ∧ 1588 < len)

/-- The packet is handled inside the frame. -/
def Ipv4Inside (s : Net) (frame : List UInt8) : Prop :=
  let f := ipv4FragmentOf frame
  Ipv4FrameOk frame → Ipv4Wraps frame → ForUs s f.dstIp ∧
    (f.fragOffFlags &&& 0x3FFF = 0 →
      (f.proto = ipProtoIcmp → IcmpInside frame) ∧ (f.proto = ipProtoUdp → UdpInside frame))

/-! ### Handlers of packets that are in their buffer -/

section

variable {buffer : PacketBuffer} {mem : Nat → UInt8} {srcIp dstIp : UInt32} {off len n : Nat}

section

variable (h : off + len ≤ buffer.size n)
include h

lemma icmpAccesses_inside (netReady : Bool) :
    ∀ e ∈ icmpAccesses buffer mem netReady off len, e.Inside n := by
  unfold icmpAccesses
  split_ifs <;> simp [PacketAccess.Inside] <;> omega

lemma udpAccesses_inside : ∀ e ∈ udpAccesses buffer mem srcIp dstIp off len, e.Inside n := by
  unfold udpAccesses
  dsimp only
  split_ifs <;> simp [PacketAccess.Inside] <;> omega

lemma tcpAccesses_inside : ∀ e ∈ tcpAccesses buffer mem srcIp dstIp off len, e.Inside n := by
  unfold tcpAccesses
  dsimp only
  split_ifs <;> simp [PacketAccess.Inside] <;> omega

lemma handlerAccesses_inside (netReady : Bool) (protocol : UInt8) :
    ∀ e ∈ handlerAccesses buffer mem srcIp dstIp netReady protocol off len, e.Inside n := by
  unfold handlerAccesses
  split_ifs
  · exact icmpAccesses_inside h netReady
  · exact udpAccesses_inside h
  · exact tcpAccesses_inside h
  · simp

end

end

section

variable {s : Net} {frame : List UInt8} {behind : Nat → UInt8} {f : Ipv4Fragment} {len : Nat}

lemma forwardAccesses_inside {totalLen : Nat} (hlong : 34 ≤ frame.length)
    (h : 14 + totalLen ≤ frame.length) :
    ∀ e ∈ forwardAccesses s frame totalLen, e.Inside frame.length := by
  unfold forwardAccesses
  dsimp only
  split_ifs <;> simp [PacketAccess.Inside, PacketBuffer.size] <;> omega

/-- The state of the slots after some run of reassembly from slots that are not used. -/
def Net.ReassReachable (s : Net) : Prop :=
  ∃ (r : Ipv4Reass) (ops : List ReassOp), (∀ i, (r i).used = false) ∧
    s.ipv4Reass = Machine.run reassOpStep r ops

lemma Net.ReassReachable.length_packet (hs : s.ReassReachable) {packet : List UInt8}
    (hpacket : (ipv4ReassemblePacket s.tick (ipv4ReassemblyGc s.tick s.ipv4Reass) f).2 =
      some packet) : packet.length ≤ ipv4MaxHeader + ipv4ReassMaxPayload := by
  obtain ⟨r, ops, hunused, hrun⟩ := hs
  refine length_reassembled (r := r) s.tick hunused (ops ++ [.gc s.tick]) (f := f) ?_
  rw [Machine.run_append, ← hrun]
  exact hpacket

lemma fragmentAccesses_inside (hs : s.ReassReachable) {headerLen : Nat}
    (h : 14 + headerLen + f.payload.length ≤ frame.length) :
    ∀ e ∈ fragmentAccesses s f headerLen, e.Inside frame.length := by
  unfold fragmentAccesses
  rw [List.forall_mem_append]
  constructor
  · split_ifs <;> simp [PacketAccess.Inside, PacketBuffer.size] <;> omega
  · cases hpacket : (ipv4ReassemblePacket s.tick (ipv4ReassemblyGc s.tick s.ipv4Reass) f).2 with
    | none => simp
    | some packet =>
      have hfits := hs.length_packet hpacket
      have hread : ∀ off len, off + len ≤ 4156 →
          (PacketAccess.read .assembled off len).Inside frame.length := fun _ _ h => h
      refine List.forall_mem_cons.2 ⟨hread 0 1 (by omega), ?_⟩
      split_ifs with hshort
      · simp
      · refine List.forall_mem_cons.2 ⟨hread 9 1 (by omega), List.forall_mem_cons.2
          ⟨hread 12 8 (by omega), handlerAccesses_inside ?_ _ _⟩⟩
        rw [Nat.add_sub_cancel' (Nat.not_lt.1 hshort)]
        exact hfits
      · simp [hread]

lemma fragmentAccesses_of_not_accepted (hf : ¬ f.Accepted) (headerLen : Nat) :
    fragmentAccesses s f headerLen = [] := by
  unfold fragmentAccesses
  rw [if_neg hf, reassemble_of_not_accepted hf]
  rfl

/-! ### Handlers of packets that go past the frame -/

lemma frameMemory_of_lt {i : Nat} (h : i < frame.length) :
    frameMemory frame behind i = frame.getD i 0 := if_pos h

lemma be16At_of_lt {off : Nat} (h : off + 1 < frame.length) :
    be16At (frameMemory frame behind) off = readBe16 frame off := by
  rw [be16At, readBe16, frameMemory_of_lt h, frameMemory_of_lt (by omega)]

/-- The length of the header, as the frame gives it. -/
def ipv4HeaderLen (frame : List UInt8) : Nat := (frame.getD 14 0 &&& 0x0F).toNat * 4

lemma icmpAccesses_wraps (netReady : Bool) (hlong : 8 ≤ len)
    (hpast : frame.length < 14 + ipv4HeaderLen frame + len) :
    (∀ e ∈ icmpAccesses .frame (frameMemory frame behind) netReady (14 + ipv4HeaderLen frame) len,
      e.Inside frame.length) ↔ IcmpInside frame := by
  unfold IcmpInside icmpAccesses
  rw [← ipv4HeaderLen, if_neg (Nat.not_lt.2 hlong)]
  generalize 14 + ipv4HeaderLen frame = off at hpast
  rw [List.forall_mem_cons, inside_read_frame, Nat.add_one_le_iff]
  refine and_congr_right fun hoff => ?_
  rw [frameMemory_of_lt hoff]
  by_cases htype : frame.getD off 0 = 8
  swap
  · rw [if_pos htype]
    exact iff_of_true (by simp) (Or.inl htype)
  rw [if_neg (not_not.2 htype), List.forall_mem_cons, inside_read_frame, Nat.add_one_le_iff,
    or_iff_right (not_not.2 htype)]
  refine and_congr_right fun hin => ?_
  rw [frameMemory_of_lt hin]
  by_cases hcode : frame.getD (off + 1) 0 = 0
  · rw [if_neg (not_not.2 hcode), List.forall_mem_cons, inside_pass_frame]
    exact iff_of_false (fun hall => absurd hall.1 (by omega)) (not_not.2 hcode)
  · rw [if_pos hcode]
    exact iff_of_true (by simp) hcode

lemma udpAccesses_wraps {srcIp dstIp : UInt32}
    (hlen : len = readBe16 frame 16 - ipv4HeaderLen frame) (hlong : 8 ≤ len) (hshort : len ≤ 65515)
    (hpast : frame.length < 14 + ipv4HeaderLen frame + len) :
    (∀ e ∈ udpAccesses .frame (frameMemory frame behind) srcIp dstIp (14 + ipv4HeaderLen frame) len,
      e.Inside frame.length) ↔ UdpInside frame := by
  unfold UdpInside udpAccesses
  dsimp only
  rw [← ipv4HeaderLen, ← hlen, if_neg (Nat.not_lt.2 hlong)]
  rw [List.forall_mem_cons, inside_read_frame]
  refine and_congr_right fun hheader => ?_
  rw [be16At_of_lt (by omega), be16At_of_lt (by omega)]
  split_ifs with hbad hsum hbig hcheck
  · exact iff_of_true (by simp) (by omega)
  · rw [List.forall_mem_singleton, inside_pass_frame]
    omega
  · exact iff_of_true (by simp) (by omega)
  · rw [List.forall_mem_singleton, inside_read_frame]
    omega
  · rw [List.forall_mem_cons, List.forall_mem_singleton, inside_read_frame,
      inside_pass_frame]
    omega

lemma handlerAccesses_wraps {srcIp dstIp : UInt32} (netReady : Bool) (protocol : UInt8)
    (hlen : len = readBe16 frame 16 - ipv4HeaderLen frame) (hlong : 4096 ≤ len)
    (hshort : len ≤ 65515) (hpast : frame.length < 14 + ipv4HeaderLen frame + len) :
    (∀ e ∈ handlerAccesses .frame (frameMemory frame behind) srcIp dstIp netReady protocol
        (14 + ipv4HeaderLen frame) len, e.Inside frame.length) ↔
      (protocol = ipProtoIcmp → IcmpInside frame) ∧ (protocol = ipProtoUdp → UdpInside frame) := by
  unfold handlerAccesses
  split_ifs with hicmp hudp htcp
  · have hnot : ¬ protocol = ipProtoUdp := by
      rw [hicmp]
      decide
    rw [icmpAccesses_wraps netReady (by omega) hpast]
    exact ⟨fun h => ⟨fun _ => h, fun h' => absurd h' hnot⟩, fun h => h.1 hicmp⟩
  · rw [udpAccesses_wraps hlen (by omega) hshort hpast]
    exact ⟨fun h => ⟨fun h' => absurd h' hicmp, fun _ => h⟩, fun h => h.2 hudp⟩
  · have hrefused : (12 + len) % 65536 > 1600 := by omega
    have hnone : tcpAccesses .frame (frameMemory frame behind) srcIp dstIp
        (14 + ipv4HeaderLen frame) len = [] := by
      unfold tcpAccesses
      rw [if_neg (by omega), if_pos hrefused]
    rw [hnone]
    simp [hicmp, hudp]
  · simp [hicmp, hudp]

/-! ### Frames -/

lemma ipv4FrameAccesses_of_ok (hok : Ipv4FrameOk frame) :
    ipv4FrameAccesses s frame behind = [.read .frame 14 1, .read .frame 16 2,
        .read .frame 14 (ipv4HeaderLen frame), .read .frame 6 6, .read .frame 18 16] ++
      if ¬ ForUs s (ipv4FragmentOf frame).dstIp then forwardAccesses s frame (readBe16 frame 16)
      else if (ipv4FragmentOf frame).fragOffFlags &&& 0x3FFF ≠ 0 then
        fragmentAccesses s (ipv4FragmentOf frame) (ipv4HeaderLen frame)
      else handlerAccesses .frame (frameMemory frame behind) (ipv4FragmentOf frame).srcIp
        (ipv4FragmentOf frame).dstIp s.netReady (ipv4FragmentOf frame).proto
        (14 + ipv4HeaderLen frame) (readBe16 frame 16 - ipv4HeaderLen frame) := by
  obtain ⟨hlong, hversion, hheader, hmax, hin, htotal, hwhole, hsum⟩ := hok
  unfold ipv4FrameAccesses ipv4HeaderLen
  rw [if_neg (by omega), if_neg, if_neg (by omega), if_neg (not_not.2 hsum)]
  · rfl
  · rw [not_or, not_or, not_or, not_not]
    exact ⟨hversion, by omega, by omega, by omega⟩

lemma ipv4FrameAccesses_of_not_ok (hok : ¬ Ipv4FrameOk frame) :
    ∀ e ∈ ipv4FrameAccesses s frame behind, e.Inside frame.length := by
  unfold ipv4FrameAccesses
  dsimp only
  split_ifs with hlong hheader htotal hsum
  · simp
  · simp only [List.forall_mem_cons, inside_read_frame, List.not_mem_nil, false_imp_iff,
      implies_true, and_true]
    omega
  · simp only [List.forall_mem_cons, inside_read_frame, List.not_mem_nil, false_imp_iff,
      implies_true, and_true]
    omega
  · simp only [List.forall_mem_cons, inside_read_frame, List.not_mem_nil, false_imp_iff,
      implies_true, and_true]
    omega
  all_goals
    rw [not_or, not_or, not_or, not_not] at hheader
    exact absurd ⟨by omega, hheader.1, by omega, by omega, by omega, by omega, by omega,
      not_not.1 hsum⟩ hok

/-- Every read of a frame is inside the frame, and every buffer that is passed on is inside it or
the buffer of reassembly, exactly for the frames that are handled inside. -/
theorem ipv4FrameAccesses_inside_iff (hs : s.ReassReachable) (hlen : frame.length ≤ 1514)
    (behind : Nat → UInt8) :
    (∀ e ∈ ipv4FrameAccesses s frame behind, e.Inside frame.length) ↔ Ipv4Inside s frame := by
  by_cases hok : Ipv4FrameOk frame
  swap
  · exact iff_of_true (ipv4FrameAccesses_of_not_ok hok) fun h => absurd h hok
  have hword := readBe16_lt frame 16
  have hpayload : (ipv4FragmentOf frame).payload.length = readBe16 frame 16 - ipv4HeaderLen frame :=
    List.takeD_length ..
  rw [ipv4FrameAccesses_of_ok hok, List.forall_mem_append]
  obtain ⟨hlong, -, hheader, hmax, hin, htotal, hwhole, -⟩ := id hok
  rw [← ipv4HeaderLen] at hheader hmax hin htotal
  have hreads : ∀ e ∈ [PacketAccess.read .frame 14 1, .read .frame 16 2,
      .read .frame 14 (ipv4HeaderLen frame), .read .frame 6 6, .read .frame 18 16],
      e.Inside frame.length := by
    simp [PacketAccess.Inside, PacketBuffer.size]
    omega
  rw [and_iff_right hreads]
  unfold Ipv4Inside
  dsimp only
  by_cases hwraps : Ipv4Wraps frame
  · unfold Ipv4Wraps at hwraps
    have hnot : ¬ (ipv4FragmentOf frame).Accepted := by
      rintro ⟨-, -, hshort⟩
      rw [hpayload, ipv4ReassMaxPayload] at hshort
      omega
    simp only [hok, Ipv4Wraps, hwraps, true_imp_iff]
    by_cases hus : ForUs s (ipv4FragmentOf frame).dstIp
    swap
    · rw [if_pos hus]
      refine iff_of_false (fun hall => ?_) fun h => hus h.1
      have hpassed := hall (.pass .frame 14 (readBe16 frame 16)) List.mem_cons_self
      rw [inside_pass_frame] at hpassed
      omega
    rw [if_neg (not_not.2 hus), and_iff_right hus]
    by_cases hfragment : (ipv4FragmentOf frame).fragOffFlags &&& 0x3FFF = 0
    · rw [if_neg (not_not.2 hfragment),
        handlerAccesses_wraps s.netReady _ rfl (by omega) (by omega) (by omega)]
      exact ⟨fun h _ => h, fun h => h hfragment⟩
    · rw [if_pos hfragment, fragmentAccesses_of_not_accepted hnot]
      exact iff_of_true (by simp) fun h => absurd h hfragment
  · refine iff_of_true ?_ fun _ h => absurd h hwraps
    have hfits : 14 + readBe16 frame 16 ≤ frame.length := by
      rw [Ipv4Wraps] at hwraps
      omega
    split_ifs
    · refine fragmentAccesses_inside hs ?_
      omega
    · refine handlerAccesses_inside ?_ _ _
      change _ ≤ frame.length
      omega
    · exact forwardAccesses_inside hlong hfits

end

/-- A frame of 60 bytes with a packet for port 9000 whose total length is 65522, without a checksum
of UDP. -/
def wrappedFrame : List UInt8 :=
  ipv4Frame broadcastMac broadcastMac
    (ipv4Header 65522 1 0 64 ipProtoUdp 0x0A000202 0x0A00020F)
    (be16 5000 ++ be16 9000 ++ be16 1000 ++ be16 0)

lemma Net.booted_reassReachable (ip : UInt32) : (Net.booted ip).ReassReachable :=
  ⟨(Net.booted ip).ipv4Reass, [], fun _ => rfl, rfl⟩

/-- A frame with eight bytes for port 9000. -/
theorem ipv4FrameAccesses_inside_short : (Net.booted 0x0A00020F).ReassReachable ∧
    ∀ e ∈ ipv4FrameAccesses (Net.booted 0x0A00020F)
      (ipv4Frame broadcastMac broadcastMac (ipv4Header 36 1 0 64 ipProtoUdp 0x0A000202 0x0A00020F)
        (be16 5000 ++ be16 9000 ++ be16 16 ++ be16 0 ++ [1, 2, 3, 4, 5, 6, 7, 8])) (fun _ => 0xFF),
      e.Inside 60 := by
  refine ⟨Net.booted_reassReachable _,
    (ipv4FrameAccesses_inside_iff (Net.booted_reassReachable _) (by decide) _).2 ?_⟩
  intro _ hwraps
  unfold Ipv4Wraps at hwraps
  exact absurd hwraps (by decide)

/-- The 992 bytes that are passed to the queue of the port are not in the frame. -/
theorem ipv4FrameAccesses_wrapped : wrappedFrame.length = 60 ∧ Ipv4FrameOk wrappedFrame ∧
    PacketAccess.pass .frame 42 992 ∈
      ipv4FrameAccesses (Net.booted 0x0A00020F) wrappedFrame (fun _ => 0) ∧
    ¬ (PacketAccess.pass .frame 42 992).Inside 60 := by
  refine ⟨by decide, by decide +kernel, by decide +kernel, ?_⟩
  rw [inside_pass_frame]
  decide

end NeuroSpark
