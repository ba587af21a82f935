import NeuroSpark.Net.Receive

/-!
# UDP

A bound port has a queue of sixteen datagrams of at most `UDP_MAX_PAYLOAD` bytes; what finds no
place is dropped and counted. Faults can be injected on the way to the queue. The counters of
`net_rx_stats` are left out.
-/

namespace NeuroSpark

open Network

def udpFindBinding (s : Net) (port : UInt16) : Option (Fin 16) :=
  (List.finRange 16).find? fun i => (s.udpBindings i).used && (s.udpBindings i).port == port

def Net.setBinding (s : Net) (i : Fin 16) (b : UdpBinding) : Net :=
  { s with udpBindings := Function.update s.udpBindings i b }

def udpAllocBinding (s : Net) (port : UInt16) : Net × Option (Fin 16) :=
  match udpFindBinding s port with
  | some i => (s, some i)
  | none =>
    match (List.finRange 16).find? fun i => !(s.udpBindings i).used with
    | some i =>
      let queue := (s.udpBindings i).queue
      (s.setBinding i ⟨true, port, 0, queue.reset⟩, some i)
    | none => (s, none)

def netUdpBind (s : Net) (port : UInt16) : Net × Bool :=
  if port = 0 then (s, false)
  else ((udpAllocBinding s port).1, (udpAllocBinding s port).2.isSome)

def udpEnqueuePacket (s : Net) (dstPort : UInt16) (packet : UdpPacket) : Net × Bool :=
  match udpFindBinding s dstPort with
  | none => (s, false)
  | some i =>
    let binding := s.udpBindings i
    if packet.data.length > udpMaxPayload then
      (s.setBinding i { binding with dropped := binding.dropped + 1 }, false)
    else if h : binding.queue.count < 16 then
      (s.setBinding i { binding with queue := binding.queue.push packet h }, true)
    else (s.setBinding i { binding with dropped := binding.dropped + 1 }, false)

def netFaultShouldApply (s : Net) (percent : Nat) : Net × Bool :=
  if percent = 0 then (s, false)
  else if percent ≥ 100 then (s, true)
  else
    let state := s.netFaultPrngState * 1664525 + 1013904223
    ({ s with netFaultPrngState := state }, state.toNat % 100 < percent)

lemma netFaultShouldApply_frame (s : Net) (percent : Nat) :
    ∃ prng, (netFaultShouldApply s percent).1 = { s with netFaultPrngState := prng } := by
  unfold netFaultShouldApply
  split_ifs
  · exact ⟨s.netFaultPrngState, rfl⟩
  · exact ⟨s.netFaultPrngState, rfl⟩
  · exact ⟨_, rfl⟩

/-- A datagram may be lost, or held until the next one. -/
def udpEnqueueWithFaults (s : Net) (dstPort : UInt16) (packet : UdpPacket) : Net × Bool :=
  let r := netFaultShouldApply s s.netFaultLossPercent
  if r.2 then (r.1, true)
  else
    let s := r.1
    let hold := s.udpReorderHold
    if hold.valid then
      let r := udpEnqueuePacket s dstPort packet
      if !r.2 then (r.1, false)
      else
        let r := udpEnqueuePacket r.1 hold.dstPort hold.packet
        if !r.2 then (r.1, false)
        else ({ r.1 with udpReorderHold := { hold with valid := false } }, true)
    else
      let r := netFaultShouldApply s s.netFaultReorderPercent
      if r.2 ∧ packet.data.length ≤ udpMaxPayload then
        ({ r.1 with udpReorderHold := ⟨true, packet, dstPort⟩ }, true)
      else udpEnqueuePacket r.1 dstPort packet

/-- The header, with its checksum, is that of a datagram. -/
def UdpOk (srcIp dstIp : UInt32) (udpPacket : List UInt8) : Prop :=
  let headerLen := readBe16 udpPacket 4
  8 ≤ udpPacket.length ∧ 8 ≤ headerLen ∧ headerLen ≤ udpPacket.length ∧
    (readBe16 udpPacket 6 ≠ 0 → (12 + headerLen) % 65536 ≤ 1600 ∧
      internetChecksum (be32 srcIp ++ be32 dstIp ++ [0, ipProtoUdp] ++ be16 headerLen ++
        udpPacket.take headerLen) = 0)

instance (srcIp dstIp : UInt32) (udpPacket : List UInt8) :
    Decidable (UdpOk srcIp dstIp udpPacket) :=
  inferInstanceAs (Decidable (_ ∧ _ ∧ _ ∧ (_ → _ ∧ _)))

def netHandleUdpDatagram (s : Net) (srcIp dstIp : UInt32) (udpPacket : List UInt8) : Net :=
  if ¬ UdpOk srcIp dstIp udpPacket then s
  else
    (udpEnqueueWithFaults s (UInt16.ofNat (readBe16 udpPacket 2))
      ⟨srcIp, UInt16.ofNat (readBe16 udpPacket 0),
        (udpPacket.drop 8).take (readBe16 udpPacket 4 - 8)⟩).1

def netHandleArpFrame (s : Net) (frame : List UInt8) : Net :=
  if frame.length < 42 then s
  else if readBe16 frame 14 ≠ 1 ∨ readBe16 frame 16 ≠ 0x0800 ∨ frame.getD 18 0 ≠ 6 ∨
      frame.getD 19 0 ≠ 4 then s
  else
    let senderIp := readBe32 frame 28
    let s := arpCacheUpdate s senderIp (macAt frame 22)
    if readBe16 frame 20 = 1 ∧ readBe32 frame 38 = s.netIp then
      (netSendArpReply s (macAt frame 22) senderIp).1
    else s

def netSendIcmpEchoReply (s : Net) (dstIp : UInt32) (request : List UInt8) : Net :=
  if !s.netReady ∨ request.length < 8 ∨ request.length > ipv4ReassMaxPayload then s
  else
    let icmp := writeBe16 ((request.set 0 0).set 1 0) 2 0
    let icmp := writeBe16 icmp 2 (internetChecksum icmp)
    { (netSendIpv4Raw s dstIp ipProtoIcmp icmp 64 s.ipv4TxIdent).1 with
      ipv4TxIdent := s.ipv4TxIdent + 1 }

/-- `net_handle_eth_frame`, less the segments of TCP, whose handler works on tables of its own. -/
def netHandleEthFrame (s : Net) (frame : List UInt8) : Net :=
  if frame.length < 14 then s
  else if readBe16 frame 12 = ethTypeIpv4 then
    let r := netHandleIpv4Frame s frame
    match r.2 with
    | none => r.1
    | some d =>
      if d.protocol = ipProtoIcmp then
        if d.payload.length ≥ 8 ∧ d.payload.getD 0 0 = 8 ∧ d.payload.getD 1 0 = 0 then
          netSendIcmpEchoReply r.1 d.srcIp d.payload
        else r.1
      else if d.protocol = ipProtoUdp then
        if d.payload.length < 8 then r.1
        else netHandleUdpDatagram r.1 d.srcIp d.dstIp d.payload
      else r.1
  else if readBe16 frame 12 = ethTypeArp then netHandleArpFrame s frame
  else s

/-- A frame arrives at some tick. -/
def netReceive (s : Net) (a : UInt32 × List UInt8) : Net :=
  netHandleEthFrame { s with tick := a.1 } a.2

/-- The oldest datagram of a port, or as much of it as fits. -/
def netUdpRecv (s : Net) (port : UInt16) (maxLen : Nat) : Net × Option UdpPacket :=
  match udpFindBinding s port with
  | none => (s, none)
  | some i =>
    if maxLen = 0 then (s, none)
    else
      let binding := s.udpBindings i
      if h : 0 < binding.queue.count then
        let pkt := binding.queue.slots binding.queue.head
        (s.setBinding i { binding with queue := binding.queue.pop pkt h },
          some { pkt with data := pkt.data.take maxLen })
      else (s, none)

def netSendUdp (s : Net) (dstIp : UInt32) (srcPort dstPort : UInt16) (payload : List UInt8) :
    Net × Bool :=
  if !s.netReady then (s, false)
  else if payload.length > ipv4ReassMaxPayload then (s, false)
  else
    let udpPacket := be16 srcPort.toNat ++ be16 dstPort.toNat ++ be16 (8 + payload.length) ++
      be16 0 ++ payload
    let s :=
      if dstIp = s.netIp ∨ dstIp = 0x7F000001 ∨ dstIp = 0xFFFFFFFF then
        (udpEnqueueWithFaults s dstPort ⟨s.netIp, srcPort, payload⟩).1
      else s
    let r := netSendIpv4Raw s dstIp ipProtoUdp udpPacket 64 s.ipv4TxIdent
    ({ r.1 with ipv4TxIdent := s.ipv4TxIdent + 1 }, r.2)

end NeuroSpark
