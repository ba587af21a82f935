import NeuroSpark.Net.Delivery

/-!
# Remote transfers

What is exported to a remote host goes out by UDP in packets with a header, a session and a
checksum. Longer data is cut into chunks with headers of their own, and each chunk is the payload of
a packet. The two functions have limits that do not fit together: a chunk is filled up to 512 bytes,
its own header included, but a packet of 512 bytes has room for 464 behind its header.
-/

namespace NeuroSpark

open Network

def udpCtrlPort : UInt16 := 39000
def udpDataPort : UInt16 := 39001
def remotePktMagic : UInt32 := 0x52435031
def remotePktVersion : UInt32 := 1
def remotePktFlagReliable : UInt32 := 0x00000001
def remotePktFlagChunked : UInt32 := 0x00000002
def remotePktFlagChunkFirst : UInt32 := 0x00000004
def remotePktFlagChunkLast : UInt32 := 0x00000008
def remoteChunkMagic : UInt32 := 0x43484B31
def remoteRoleViewer : UInt32 := 1
def remoteRoleAdmin : UInt32 := 3

def remotePacketHeaderSize : Nat := 48

def remoteChunkHeaderSize : Nat := 32

/-- The size of the buffers `payload` and `chunk_payload`. -/
def remoteBufferSize : Nat := 512

/-- The network stack with the state of `remote_auth.c` that sending depends on. -/
structure Remote where
  net : Net
  remoteEnabled : Bool
  remoteDstIp : UInt32
  remoteToken : UInt32
  remoteSession : UInt32
  remoteAuthDeadline : UInt32
  remoteKeyEpoch : UInt32
  remoteNonceState : UInt32
  remoteSeq : UInt32
  remoteRole : UInt32

def remoteChecksum32 (data : List UInt8) : UInt32 :=
  data.foldl (fun hash b => (hash ^^^ b.toUInt32) * 16777619) 2166136261

def remoteSeedNonceState (s : Remote) : Remote :=
  let state := s.remoteToken ^^^ s.remoteSession ^^^ s.remoteKeyEpoch ^^^ 0x9E3779B9
  { s with remoteNonceState := if state = 0 then 0xA341316C else state }

/-- 0 is not given out. -/
def remoteNextRequestId (s : Remote) : Remote × UInt32 :=
  if s.remoteSeq = 0 then ({ s with remoteSeq := s.remoteSeq + 2 }, s.remoteSeq + 1)
  else ({ s with remoteSeq := s.remoteSeq + 1 }, s.remoteSeq)

def remoteNextNonce (s : Remote) (requestId : UInt32) : Remote × UInt32 :=
  let x := s.remoteNonceState
  let x := x ^^^ x <<< 13
  let x := x ^^^ x >>> 17
  let x := x ^^^ x <<< 5
  let x := x ^^^ requestId
  let x := if x = 0 then 0x7F4A7C15 ^^^ requestId else x
  ({ s with remoteNonceState := x }, x)

def remoteRotateSessionKeyInternal (s : Remote) : Remote :=
  let base := s.net.tick ^^^ s.remoteToken ^^^ s.remoteKeyEpoch * 0x45D9F3B
  remoteSeedNonceState { s with
    remoteKeyEpoch := s.remoteKeyEpoch + 1
    remoteSession := base ||| 1
    remoteSeq := 1 }

def remoteGetSession (s : Remote) : Remote × UInt32 :=
  let s := if s.remoteSession = 0 then remoteRotateSessionKeyInternal s else s
  (s, s.remoteSession)

def remoteAuthValid (s : Remote) : Bool :=
  s.remoteToken ≠ 0 ∧ s.remoteAuthDeadline ≠ 0 ∧ s.net.tick ≤ s.remoteAuthDeadline ∧
    remoteRoleViewer ≤ s.remoteRole ∧ s.remoteRole ≤ remoteRoleAdmin

/-- The header of a packet, with a given checksum. -/
def remotePacketHeader (type : UInt8)
    (flags session requestId token nonce role checksum status : UInt32) (payloadLen : Nat) :
    List UInt8 :=
  be32 remotePktMagic ++ be32 remotePktVersion ++ be32 type.toUInt32 ++ be32 flags ++
    be32 session ++ be32 requestId ++ be32 token ++ be32 nonce ++ be32 role ++ be32 checksum ++
    be32 status ++ be32 (UInt32.ofNat payloadLen)

/-- The checksum is computed over the packet with 0 in its place. -/
def remotePacket (type : UInt8) (data : List UInt8)
    (flags session requestId token nonce role status : UInt32) : List UInt8 :=
  let header checksum := remotePacketHeader type flags session requestId token nonce role checksum
    status data.length
  header (remoteChecksum32 (header 0 ++ data)) ++ data

/-- Packets that are to arrive are sent twice. -/
def remoteSendPayload (s : Remote) (type : UInt8) (data : List UInt8)
    (flags requestId status : UInt32) : Remote × Bool :=
  if !s.net.netReady ∨ !s.remoteEnabled ∨ !remoteAuthValid s then (s, false)
  else if data.length > remoteBufferSize - remotePacketHeaderSize then (s, false)
  else
    let session := remoteGetSession s
    let nonce := remoteNextNonce session.1 requestId
    let s := nonce.1
    let payload := remotePacket type data flags session.2 requestId s.remoteToken nonce.2
      s.remoteRole status
    let r := netSendUdp s.net s.remoteDstIp udpCtrlPort udpDataPort payload
    let r :=
      if flags &&& remotePktFlagReliable ≠ 0 ∧ r.2 then
        netSendUdp r.1 s.remoteDstIp udpCtrlPort udpDataPort payload
      else r
    ({ s with net := r.1 }, r.2)

def remoteChunkHeader (transferId : UInt32)
    (chunkIndex chunkCount totalLen chunkOffset chunkLen : Nat) (checksum : UInt32) : List UInt8 :=
  be32 remoteChunkMagic ++ be32 transferId ++ be32 (UInt32.ofNat chunkIndex) ++
    be32 (UInt32.ofNat chunkCount) ++ be32 (UInt32.ofNat totalLen) ++
    be32 (UInt32.ofNat chunkOffset) ++ be32 (UInt32.ofNat chunkLen) ++ be32 checksum

def chunkLimit : Nat := remoteBufferSize - remoteChunkHeaderSize

def chunkCount (len : Nat) : Nat := if len = 0 then 1 else (len + chunkLimit - 1) / chunkLimit

def chunkFlags (flags : UInt32) (chunkIndex chunkCount : Nat) : UInt32 :=
  let flags := flags ||| remotePktFlagChunked
  let flags := if chunkIndex = 0 then flags ||| remotePktFlagChunkFirst else flags
  if chunkIndex + 1 = chunkCount then flags ||| remotePktFlagChunkLast else flags

/-- The loop of `remote_send_chunked_payload`, with the number of chunks that are left. -/
def remoteSendChunks (type : UInt8) (data : List UInt8) (flags requestId status : UInt32) :
    Nat → Nat → Nat → Remote → Remote × Bool
  | 0, _, _, s => (s, true)
  | left + 1, chunkIndex, offset, s =>
    let remaining := if offset < data.length then data.length - offset else 0
    let thisLen := if remaining > chunkLimit then chunkLimit else remaining
    let count := chunkCount data.length
    let header := remoteChunkHeader requestId chunkIndex count data.length offset thisLen
      (remoteChecksum32 data)
    let r := remoteSendPayload s type (header ++ (data.drop offset).take thisLen)
      (chunkFlags flags chunkIndex count) requestId status
    if !r.2 then (r.1, false)
    else remoteSendChunks type data flags requestId status left (chunkIndex + 1)
      (offset + thisLen) r.1

def remoteSendChunkedPayload (s : Remote) (type : UInt8) (data : List UInt8)
    (flags requestId status : UInt32) : Remote × Bool :=
  let r := if requestId = 0 then remoteNextRequestId s else (s, requestId)
  remoteSendChunks type data flags r.2 status (chunkCount data.length) 0 0 r.1

/-- A chunk as its receiver reads it. -/
structure RemoteChunk where
  flags : UInt32
  chunkIndex : Nat
  chunkOffset : Nat
  chunkLen : Nat
  data : List UInt8

/-- The chunk in the payload of a datagram. -/
def remoteChunkOf (packet : List UInt8) : RemoteChunk where
  flags := readBe32 packet 12
  chunkIndex := (readBe32 packet 56).toNat
  chunkOffset := (readBe32 packet 68).toNat
  chunkLen := (readBe32 packet 72).toNat
  data := packet.drop 80

/-- The chunks in the datagrams that the card was given between two states. -/
def remoteChunksSent (s s' : Remote) : List RemoteChunk :=
  ((s'.net.tx.drop s.net.tx.length).filter fun frame => readBe16 frame 12 = ethTypeIpv4).map
    fun frame => remoteChunkOf ((ipv4FragmentOf frame).payload.drop 8)

/-- The chunks that were sent, some perhaps twice, are all of the data in order. -/
structure CompleteTransfer (data : List UInt8) (s : Remote) (r : Remote × Bool)
    (chunks : List RemoteChunk) : Prop where
  returned : r.2 = true
  mem_iff : ∀ c, c ∈ remoteChunksSent s r.1 ↔ c ∈ chunks
  chunkIndex : ∀ (k : Nat) (c : RemoteChunk), chunks[k]? = some c → c.chunkIndex = k
  chunkOffset : ∀ (k : Nat) (c : RemoteChunk), chunks[k]? = some c →
    c.chunkOffset = ((chunks.take k).map RemoteChunk.chunkLen).sum
  chunkLen : (chunks.map RemoteChunk.chunkLen).sum = data.length
  first : ∀ (k : Nat) (c : RemoteChunk), chunks[k]? = some c →
    (c.flags &&& remotePktFlagChunkFirst ≠ 0 ↔ k = 0)
  last : ∀ (k : Nat) (c : RemoteChunk), chunks[k]? = some c →
    (c.flags &&& remotePktFlagChunkLast ≠ 0 ↔ k + 1 = chunks.length)
  data : (chunks.map RemoteChunk.data).flatten = data

section

variable {s : Net} {payload : List UInt8}

/-- A datagram that fits in a frame is sent in one, and the card stays as it is. -/
lemma netSendUdp_whole (hready : s.netReady = true) (hbase : s.rtlIobase ≠ 0)
    (hlen : payload.length ≤ 1472) (dstIp : UInt32) (srcPort dstPort : UInt16) :
    ∃ (mac : Mac) (arp : List (List UInt8)) (ident : UInt16),
      (∀ frame ∈ arp, readBe16 frame 12 ≠ ethTypeIpv4) ∧
      (netSendUdp s dstIp srcPort dstPort payload).2 = true ∧
      (netSendUdp s dstIp srcPort dstPort payload).1.tx = s.tx ++ (arp ++
        [ipv4Frame mac s.rtlMac (ipv4Header (20 + (8 + payload.length)) ident 0 64 ipProtoUdp
          s.netIp dstIp) (udpPacketOf srcPort dstPort payload)]) ∧
      (netSendUdp s dstIp srcPort dstPort payload).1.netReady = true ∧
      (netSendUdp s dstIp srcPort dstPort payload).1.rtlIobase ≠ 0 := by
  have hpacket : (udpPacketOf srcPort dstPort payload).length = 8 + payload.length :=
    length_udpPacketOf
  have hmax : ¬ payload.length > ipv4ReassMaxPayload := by
    unfold ipv4ReassMaxPayload
    omega
  -- what is put into a queue of the sender's own does not matter for the card
  obtain ⟨t, htDef, htx, hmac, hip, ht, ht'⟩ : ∃ t : Net,
      t = (if dstIp = s.netIp ∨ dstIp = 0x7F000001 ∨ dstIp = 0xFFFFFFFF then
        (udpEnqueueWithFaults s dstPort ⟨s.netIp, srcPort, payload⟩).1 else s) ∧
      t.tx = s.tx ∧ t.rtlMac = s.rtlMac ∧ t.netIp = s.netIp ∧ t.netReady = true ∧
        t.rtlIobase ≠ 0 := by
    refine ⟨_, rfl, ?_⟩
    split_ifs
    · obtain ⟨b, h, g, hframe⟩ := udpEnqueueWithFaults_frame s dstPort ⟨s.netIp, srcPort, payload⟩
      rw [hframe]
      exact ⟨rfl, rfl, rfl, hready, hbase⟩
    · exact ⟨rfl, rfl, rfl, hready, hbase⟩
  obtain ⟨mac, arp, harp, hraw⟩ : ∃ (mac : Mac) (arp : List (List UInt8)),
      (∀ frame ∈ arp, readBe16 frame 12 ≠ ethTypeIpv4) ∧
        netSendIpv4Raw t dstIp ipProtoUdp (udpPacketOf srcPort dstPort payload) 64
          t.ipv4TxIdent = _ :=
    netSendIpv4Raw_eq ht (by omega)
  have hframe : (ipv4Header (20 + (8 + payload.length)) t.ipv4TxIdent 0 64 ipProtoUdp t.netIp
      dstIp).length + (udpPacketOf srcPort dstPort payload).length ≤ 1500 := by
    rw [length_ipv4Header, hpacket]
    omega
  rw [hpacket, if_pos (by omega),
    rtl8139SendFrame_ready (s := t.send arp) ht ht' (length_ipv4Frame_le _ _ hframe)] at hraw
  have hsend : netSendUdp s dstIp srcPort dstPort payload =
      ({ (netSendIpv4Raw t dstIp ipProtoUdp (udpPacketOf srcPort dstPort payload) 64
          t.ipv4TxIdent).1 with ipv4TxIdent := t.ipv4TxIdent + 1 },
        (netSendIpv4Raw t dstIp ipProtoUdp (udpPacketOf srcPort dstPort payload) 64
          t.ipv4TxIdent).2) := by
    unfold netSendUdp
    rw [← htDef]
    simp only [hready, Bool.not_true, Bool.false_eq_true, if_false, hmax]
    rfl
  refine ⟨mac, arp, t.ipv4TxIdent, harp, ?_⟩
  rw [hsend, hraw, ← hmac, ← hip, ← htx]
  refine ⟨rfl, ?_, ht, ht'⟩
  simp [Net.send]

end

lemma payload_udpFrame {mac rtlMac : Mac} {ident : UInt16} {src dst : UInt32}
    {srcPort dstPort : UInt16} {payload : List UInt8} (hlen : payload.length ≤ 1472) :
    (ipv4FragmentOf (ipv4Frame mac rtlMac (ipv4Header (20 + (8 + payload.length)) ident 0 64
      ipProtoUdp src dst) (udpPacketOf srcPort dstPort payload))).payload.drop 8 = payload := by
  have hpacket : (udpPacketOf srcPort dstPort payload).length = 8 + payload.length :=
    length_udpPacketOf
  rw [ipv4FragmentOf_ipv4Frame (by omega) (by omega) (by omega)]
  rfl

lemma remoteChunksSent_of_append {s s' : Remote} {frames : List (List UInt8)}
    (h : s'.net.tx = s.net.tx ++ frames) :
    remoteChunksSent s s' = (frames.filter fun frame => readBe16 frame 12 = ethTypeIpv4).map
      fun frame => remoteChunkOf ((ipv4FragmentOf frame).payload.drop 8) := by
  rw [remoteChunksSent, h, List.drop_left]

lemma filter_arp_append {arp frames : List (List UInt8)}
    (harp : ∀ frame ∈ arp, readBe16 frame 12 ≠ ethTypeIpv4) :
    (arp ++ frames).filter (fun frame => readBe16 frame 12 = ethTypeIpv4) =
      frames.filter fun frame => readBe16 frame 12 = ethTypeIpv4 := by
  have hnone : arp.filter (fun frame => readBe16 frame 12 = ethTypeIpv4) = [] := by
    rw [List.filter_eq_nil_iff]
    intro frame hframe
    simpa using harp frame hframe
  rw [List.filter_append, hnone, List.nil_append]

/-- The card is there, the remote mode is on and the authentication is valid. -/
structure Remote.Ready (s : Remote) : Prop where
  netReady : s.net.netReady = true
  rtlIobase : s.net.rtlIobase ≠ 0
  remoteEnabled : s.remoteEnabled = true
  remoteAuthValid : remoteAuthValid s = true

section

variable {s : Remote} {type : UInt8} {data : List UInt8} {flags requestId status : UInt32}

lemma remoteNextNonce_net (s : Remote) (requestId : UInt32) :
    (remoteNextNonce (remoteGetSession s).1 requestId).1.net = s.net ∧
      (remoteNextNonce (remoteGetSession s).1 requestId).1.remoteDstIp = s.remoteDstIp := by
  unfold remoteNextNonce remoteGetSession
  split_ifs <;> exact ⟨rfl, rfl⟩

lemma remoteSendPayload_long (hlen : 464 < data.length) :
    (remoteSendPayload s type data flags requestId status).2 = false := by
  have hlimit : data.length > remoteBufferSize - remotePacketHeaderSize := hlen
  unfold remoteSendPayload
  split_ifs <;> rfl

lemma remoteSendPayload_sent (h : s.Ready) (hlen : data.length ≤ 464) :
    ∃ session token nonce role : UInt32,
      (remoteSendPayload s type data flags requestId status).2 = true ∧
      ∀ c, c ∈ remoteChunksSent s (remoteSendPayload s type data flags requestId status).1 ↔
        c = remoteChunkOf (remotePacket type data flags session requestId token nonce role
          status) := by
  have hlimit : ¬ data.length > remoteBufferSize - remotePacketHeaderSize := Nat.not_lt.2 hlen
  obtain ⟨hnet, -⟩ := remoteNextNonce_net s requestId
  unfold remoteSendPayload
  simp only [h.netReady, h.remoteEnabled, h.remoteAuthValid, Bool.not_true, Bool.false_eq_true,
    or_self, if_false, hlimit]
  generalize (remoteGetSession s).2 = session
  generalize (remoteNextNonce (remoteGetSession s).1 requestId).2 = nonce
  generalize (remoteNextNonce (remoteGetSession s).1 requestId).1 = s' at hnet ⊢
  refine ⟨session, s'.remoteToken, nonce, s'.remoteRole, ?_⟩
  generalize hpacket : remotePacket type data flags session requestId s'.remoteToken nonce
    s'.remoteRole status = packet
  have hpacketLen : packet.length ≤ 1472 := by
    have hsize : packet.length = 48 + data.length := by
      rw [← hpacket]
      simp only [remotePacket, remotePacketHeader, List.length_append, length_be32]
    omega
  have hready₀ : s'.net.netReady = true := by rw [hnet, h.netReady]
  have hbase₀ : s'.net.rtlIobase ≠ 0 := by
    rw [hnet]
    exact h.rtlIobase
  obtain ⟨mac, arp, ident, harp, hsent, htx, hready, hbase⟩ :=
    netSendUdp_whole hready₀ hbase₀ hpacketLen s'.remoteDstIp udpCtrlPort udpDataPort
  have htype : ∀ (mac rtlMac : Mac) (ident : UInt16) (src dst : UInt32),
      readBe16 (ipv4Frame mac rtlMac (ipv4Header (20 + (8 + packet.length)) ident 0 64 ipProtoUdp
        src dst) (udpPacketOf udpCtrlPort udpDataPort packet)) 12 = ethTypeIpv4 :=
    fun mac rtlMac ident src dst => ipv4Frame_ethType ..
  split_ifs
  · obtain ⟨mac', arp', ident', harp', hsent', htx', -, -⟩ :=
      netSendUdp_whole hready hbase hpacketLen s'.remoteDstIp udpCtrlPort udpDataPort
    refine ⟨hsent', fun c => ?_⟩
    rw [htx, List.append_assoc] at htx'
    rw [remoteChunksSent_of_append (s := s) (htx'.trans (by rw [hnet])), List.append_assoc,
      filter_arp_append harp, List.filter_append, filter_arp_append harp']
    simp [htype, payload_udpFrame hpacketLen]
  · refine ⟨hsent, fun c => ?_⟩
    rw [remoteChunksSent_of_append (s := s) (htx.trans (by rw [hnet])), filter_arp_append harp]
    simp [htype, payload_udpFrame hpacketLen]

lemma readBe32_head (v : UInt32) (l : List UInt8) : readBe32 (be32 v ++ l) 0 = v := be32_value v

lemma readBe32_behind (v : UInt32) (l : List UInt8) {i : Nat} (hi : 4 ≤ i) :
    readBe32 (be32 v ++ l) i = readBe32 l (i - 4) := by
  have hread : readBe32 (be32 v ++ l) (4 + (i - 4)) = readBe32 l (i - 4) :=
    readBe32_append (length_be32 v) (i - 4)
  rwa [Nat.add_sub_cancel' hi] at hread

lemma remoteChunkOf_remotePacket {session token nonce role checksum : UInt32}
    {chunkIndex count totalLen chunkOffset chunkLen : Nat} {bytes : List UInt8} :
    remoteChunkOf (remotePacket type (remoteChunkHeader requestId chunkIndex count totalLen
      chunkOffset chunkLen checksum ++ bytes) flags session requestId token nonce role status) =
      { flags := flags
        chunkIndex := (UInt32.ofNat chunkIndex).toNat
        chunkOffset := (UInt32.ofNat chunkOffset).toNat
        chunkLen := (UInt32.ofNat chunkLen).toNat
        data := bytes } := by
  unfold remotePacket
  generalize remoteChecksum32 _ = packetChecksum
  simp only [remoteChunkOf, remotePacketHeader, remoteChunkHeader, List.append_assoc]
  simp (disch := decide) only [readBe32_behind, readBe32_head, Nat.reduceSub]
  rfl

lemma or_and_self (a b : UInt32) : (a ||| b) &&& b = b := by
  apply UInt32.toBitVec_inj.1
  ext i
  simp only [UInt32.toBitVec_and, UInt32.toBitVec_or, BitVec.getElem_and, BitVec.getElem_or]
  cases a.toBitVec[i] <;> simp

lemma chunkFlags_single (flags : UInt32) : chunkFlags flags 0 1 &&& remotePktFlagChunkFirst ≠ 0 ∧
    chunkFlags flags 0 1 &&& remotePktFlagChunkLast ≠ 0 := by
  have hflags : chunkFlags flags 0 1 =
      flags ||| remotePktFlagChunked ||| remotePktFlagChunkFirst ||| remotePktFlagChunkLast := rfl
  rw [hflags]
  constructor
  · rw [UInt32.or_assoc, UInt32.or_comm remotePktFlagChunkFirst, ← UInt32.or_assoc, or_and_self]
    decide
  · rw [or_and_self]
    decide

lemma remoteSendChunkedPayload_eq (s : Remote) (type : UInt8) (data : List UInt8)
    (flags requestId status : UInt32) : ∃ (s' : Remote) (id : UInt32),
      s'.net = s.net ∧ (s.Ready → s'.Ready) ∧
      remoteSendChunkedPayload s type data flags requestId status =
        remoteSendChunks type data flags id status (chunkCount data.length) 0 0 s' := by
  unfold remoteSendChunkedPayload
  by_cases hid : requestId = 0
  · refine ⟨(remoteNextRequestId s).1, (remoteNextRequestId s).2, ?_⟩
    rw [if_pos hid]
    unfold remoteNextRequestId
    have hready : ∀ seq, s.Ready → Remote.Ready { s with remoteSeq := seq } :=
      fun seq h => ⟨h.netReady, h.rtlIobase, h.remoteEnabled, h.remoteAuthValid⟩
    split_ifs
    · exact ⟨rfl, hready _, rfl⟩
    · exact ⟨rfl, hready _, rfl⟩
  · rw [if_neg hid]
    exact ⟨s, requestId, rfl, fun h => h, rfl⟩

lemma CompleteTransfer.single {r : Remote × Bool} {chunk : RemoteChunk} (hreturned : r.2 = true)
    (hmem : ∀ c, c ∈ remoteChunksSent s r.1 ↔ c = chunk) (hindex : chunk.chunkIndex = 0)
    (hoffset : chunk.chunkOffset = 0) (hlen : chunk.chunkLen = data.length)
    (hfirst : chunk.flags &&& remotePktFlagChunkFirst ≠ 0)
    (hlast : chunk.flags &&& remotePktFlagChunkLast ≠ 0) (hdata : chunk.data = data) :
    CompleteTransfer data s r [chunk] := by
  have honly : ∀ (k : Nat) (c : RemoteChunk), [chunk][k]? = some c → k = 0 ∧ c = chunk := by
    intro k c hc
    cases k with
    | zero => exact ⟨rfl, (Option.some_injective _ hc).symm⟩
    | succ k => simp at hc
  constructor
  case returned => exact hreturned
  case mem_iff =>
    intro c
    rw [hmem c, List.mem_singleton]
  case chunkIndex =>
    intro k c hc
    obtain ⟨rfl, rfl⟩ := honly k c hc
    exact hindex
  case chunkOffset =>
    intro k c hc
    obtain ⟨rfl, rfl⟩ := honly k c hc
    exact hoffset
  case chunkLen => simpa using hlen
  case first =>
    intro k c hc
    obtain ⟨rfl, rfl⟩ := honly k c hc
    exact iff_of_true hfirst rfl
  case last =>
    intro k c hc
    obtain ⟨rfl, rfl⟩ := honly k c hc
    exact iff_of_true hlast rfl
  case data => simpa using hdata

/-- With the card ready, the remote mode on and a valid authentication, data is sent as a whole if
it fits in one packet behind both headers. Otherwise the first chunk is refused. -/
theorem remoteSendChunkedPayload_complete_iff (h : s.Ready) (hlen : data.length < 65536) :
    (∃ chunks, CompleteTransfer data s
      (remoteSendChunkedPayload s type data flags requestId status) chunks) ↔
      data.length ≤ 432 := by
  obtain ⟨s', id, hnet, hs', heq⟩ := remoteSendChunkedPayload_eq s type data flags requestId status
  have hsent : ∀ r, remoteChunksSent s r = remoteChunksSent s' r := by
    intro r
    rw [remoteChunksSent, ← hnet, remoteChunksSent]
  rw [heq]
  constructor
  · rintro ⟨chunks, hchunks⟩
    by_contra hlong
    have hreturned := hchunks.returned
    have hcount : chunkCount data.length ≠ 0 := by
      unfold chunkCount chunkLimit remoteBufferSize remoteChunkHeaderSize
      split_ifs <;> omega
    obtain ⟨left, hleft⟩ := Nat.exists_eq_succ_of_ne_zero hcount
    rw [hleft, remoteSendChunks] at hreturned
    have hpos : 0 < data.length := by omega
    simp only [Nat.sub_zero, if_pos hpos, List.drop_zero] at hreturned
    -- the first chunk is as long as the loop makes it, and does not fit behind the header
    have hthis : 432 < (if data.length > chunkLimit then chunkLimit else data.length) ∧
        (if data.length > chunkLimit then chunkLimit else data.length) ≤ data.length := by
      unfold chunkLimit remoteBufferSize remoteChunkHeaderSize
      split_ifs <;> omega
    generalize (if data.length > chunkLimit then chunkLimit else data.length) =
      thisLen at hthis hreturned
    rw [remoteSendPayload_long] at hreturned
    · simp at hreturned
    · simp only [remoteChunkHeader, List.length_append, length_be32, List.length_take]
      omega
  · intro hshort
    have hcount : chunkCount data.length = 1 := by
      unfold chunkCount chunkLimit remoteBufferSize remoteChunkHeaderSize
      split_ifs <;> omega
    have hthis : (if 0 < data.length then data.length - 0 else 0) = data.length := by
      split_ifs <;> omega
    have hlimit : ¬ data.length > chunkLimit := by
      unfold chunkLimit remoteBufferSize remoteChunkHeaderSize
      omega
    rw [hcount]
    simp only [remoteSendChunks, hthis, if_neg hlimit, hcount, List.drop_zero, List.take_length]
    generalize hpayload : remoteChunkHeader id 0 1 data.length 0 data.length
      (remoteChecksum32 data) ++ data = payload
    obtain ⟨session, token, nonce, role, hreturned, hmem⟩ : ∃ session token nonce role,
        (remoteSendPayload s' type payload (chunkFlags flags 0 1) id status).2 = true ∧ _ := by
      refine remoteSendPayload_sent (hs' h) ?_
      rw [← hpayload]
      simp only [remoteChunkHeader, List.length_append, length_be32]
      omega
    rw [← hpayload, remoteChunkOf_remotePacket] at hmem
    rw [hpayload] at hmem
    simp only [hreturned, Bool.not_true, Bool.false_eq_true, if_false]
    have hlen' : (UInt32.ofNat data.length).toNat = data.length :=
      UInt32.toNat_ofNat_of_lt' (by change data.length < 4294967296; omega)
    obtain ⟨hfirst, hlast⟩ := chunkFlags_single flags
    simp only [← hsent] at hmem
    exact ⟨_, CompleteTransfer.single rfl hmem rfl rfl hlen' hfirst hlast rfl⟩

end

/-- A host with a session of an operator. -/
def remoteHost : Remote where
  net := Net.booted 0x0A00020F
  remoteEnabled := true
  remoteDstIp := 0xFFFFFFFF
  remoteToken := 0x5EC2E7
  remoteSession := 1
  remoteAuthDeadline := 18000
  remoteKeyEpoch := 1
  remoteNonceState := 1
  remoteSeq := 1
  remoteRole := 2

lemma remoteHost_ready : remoteHost.Ready := ⟨rfl, by decide, rfl, by decide⟩

/-- A command of a few bytes is sent. -/
theorem remoteSendChunkedPayload_complete_short :
    ∃ chunks, CompleteTransfer [0x43, 0x4D, 0x44, 0x3A, 0x00] remoteHost
      (remoteSendChunkedPayload remoteHost 2 [0x43, 0x4D, 0x44, 0x3A, 0x00]
        remotePktFlagReliable 7 0) chunks :=
  (remoteSendChunkedPayload_complete_iff remoteHost_ready (by decide)).2 (by decide)

/-- 433 bytes are not. -/
theorem remoteSendChunkedPayload_incomplete :
    ¬ ∃ chunks, CompleteTransfer (List.replicate 433 0) remoteHost
      (remoteSendChunkedPayload remoteHost 3 (List.replicate 433 0) 0 7 0) chunks := by
  rintro ⟨chunks, hchunks⟩
  have hreturned : (remoteSendChunkedPayload remoteHost 3 (List.replicate 433 0) 0 7 0).2 =
      false := by
    decide +kernel
  exact absurd (hchunks.returned.symm.trans hreturned) (by decide)

end NeuroSpark
