import NeuroSpark.Net.Delivery
import NeuroSpark.Net.Peers

/-!
# What a call that sends reports

`SYS_SENDTO` and `SYS_WRITE` return the number of bytes that were sent, or a negative code. Both cut
the length down to 16 bits before they send a datagram and return the whole of it, and `SYS_SENDTO`
returns the length also if there is nobody to send to.
-/

namespace NeuroSpark

open Network

/-- What a register holds, as a signed number. -/
def signedWord (rc : Int) : Int := rc.bmod 4294967296

lemma signedWord_of_lt {n : Nat} (h : n < 2 ^ 31) : signedWord n = n :=
  Int.bmod_eq_of_le (by omega) (by omega)

lemma signedWord_of_ge {n : Nat} (h : 2 ^ 31 ≤ n) (hlt : n < 2 ^ 32) : signedWord n < 0 := by
  have hwrap : signedWord n = (n - 4294967296 : Int) := by
    rw [signedWord, ← Int.sub_bmod_right]
    exact Int.bmod_eq_of_le (by omega) (by omega)
  omega

/-! ### What is accepted -/

/-- A payload of this length is sent by `net_udp_send`. -/
def Net.SendsUdp (s : Net) (length : Nat) : Prop :=
  s.netReady = true ∧ s.rtlIobase ≠ 0 ∧ length ≤ ipv4ReassMaxPayload

instance (s : Net) (length : Nat) : Decidable (s.SendsUdp length) :=
  inferInstanceAs (Decidable (_ ∧ _ ∧ _))

section

variable {s : Net} {dstIp : UInt32} {payload : List UInt8}

lemma sendFragments_snd {mac : Mac} {protocol ttl : UInt8} {ident : UInt16}
    (hready : s.netReady = true) (hpos : 0 < payload.length) :
    (sendFragments s mac dstIp protocol payload ttl ident 0).2 = true ↔ s.rtlIobase ≠ 0 := by
  constructor
  · rintro hsent hbase
    rw [sendFragments, dif_pos hpos] at hsent
    simp [rtl8139SendFrame, hbase] at hsent
  · intro hbase
    rw [sendFragments_eq hready hbase (k := 0) (Nat.zero_le _)]

lemma netSendIpv4Raw_snd {protocol ttl : UInt8} {ident : UInt16} (hmax : payload.length ≤ 65515)
    (hpos : 0 < payload.length) : (netSendIpv4Raw s dstIp protocol payload ttl ident).2 = true ↔
      s.netReady = true ∧ s.rtlIobase ≠ 0 := by
  by_cases hready : s.netReady = true
  swap
  · simp [netSendIpv4Raw, hready]
  obtain ⟨mac, arp, -, hraw⟩ : ∃ (mac : Mac) (arp : List (List UInt8)), _ ∧
      netSendIpv4Raw s dstIp protocol payload ttl ident = _ := netSendIpv4Raw_eq hready hmax
  rw [hraw]
  split_ifs with hwhole
  · refine rtl8139SendFrame_snd (s := s.send arp) (length_ipv4Frame_le _ _ ?_)
    rw [length_ipv4Header]
    omega
  · rw [sendFragments_snd (s := s.send arp) hready hpos]
    exact (and_iff_right hready).symm

lemma netSendUdp_snd (s : Net) (dstIp : UInt32) (srcPort dstPort : UInt16) (payload : List UInt8) :
    (netSendUdp s dstIp srcPort dstPort payload).2 = true ↔ s.SendsUdp payload.length := by
  obtain ⟨t, htDef, hready', hbase'⟩ : ∃ t : Net,
      t = (if dstIp = s.netIp ∨ dstIp = 0x7F000001 ∨ dstIp = 0xFFFFFFFF then
        (udpEnqueueWithFaults s dstPort ⟨s.netIp, srcPort, payload⟩).1 else s) ∧
      t.netReady = s.netReady ∧ t.rtlIobase = s.rtlIobase := by
    refine ⟨_, rfl, ?_⟩
    split_ifs
    · obtain ⟨b, h, g, hframe⟩ := udpEnqueueWithFaults_frame s dstPort ⟨s.netIp, srcPort, payload⟩
      rw [hframe]
      exact ⟨rfl, rfl⟩
    · exact ⟨rfl, rfl⟩
  unfold netSendUdp Net.SendsUdp
  simp only [← htDef]
  by_cases hready : s.netReady = true
  swap
  · simp [hready]
  by_cases hlen : payload.length > ipv4ReassMaxPayload
  · simp [hready, hlen]
  have hle := Nat.not_lt.1 hlen
  have hlength : (udpPacketOf srcPort dstPort payload).length = 8 + payload.length :=
    length_udpPacketOf
  have hraw : (netSendIpv4Raw t dstIp ipProtoUdp (udpPacketOf srcPort dstPort payload) 64
      t.ipv4TxIdent).2 = true ↔ t.netReady = true ∧ t.rtlIobase ≠ 0 := by
    unfold ipv4ReassMaxPayload at hle
    exact netSendIpv4Raw_snd (by omega) (by omega)
  rw [hready', hbase'] at hraw
  have hnot : ¬ (!s.netReady) = true := by simp [hready]
  rw [if_neg hnot, if_neg hlen]
  exact hraw.trans (and_congr_right fun _ => (and_iff_left hle).symm)

end

lemma netTcpSend_take (t : Tcp) (i : Fin 32) {payload : List UInt8} {n : Nat}
    (hn : (netTcpSend t i payload).2 = n) (hpos : n ≠ 0) :
    n ≤ min payload.length tcpMaxPayload ∧
      netTcpSend t i (payload.take n) = ((netTcpSend t i payload).1, n) := by
  have hlength : (payload.take tcpMaxPayload).length = min payload.length tcpMaxPayload := by
    rw [List.length_take, min_comm]
  by_cases hlen : payload.length = 0
  · simp [netTcpSend, hlen] at hn
    exact absurd hn.symm hpos
  cases hcan : netTcpCanSend t i with
  | false =>
    rw [netTcpSend_of_not_canSend hcan] at hn
    exact absurd hn.symm hpos
  | true =>
    rw [netTcpSend_of_canSend hcan hlen] at hn ⊢
    split_ifs at hn ⊢ with hsent
    · obtain rfl : (payload.take tcpMaxPayload).length = n := hn
      have hsame : payload.take (payload.take tcpMaxPayload).length =
          payload.take tcpMaxPayload := by
        rw [hlength, min_comm, ← List.take_eq_take_min]
      have hshort : (payload.take tcpMaxPayload).take tcpMaxPayload =
          payload.take tcpMaxPayload := by
        rw [List.take_take, min_self]
      rw [hsame, netTcpSend_of_canSend hcan hpos, hshort, if_pos hsent]
      exact ⟨hlength.le, rfl⟩
    · exact absurd hn.symm hpos

/-! ### What is reported -/

/-- The two calls that send. -/
inductive SendCall where
  | sendto
  | write
  deriving DecidableEq

namespace Sockets

def send (s : Sockets) (task : Fin 8) (k : SendCall) (fd : Int) (data : List UInt8) :
    Sockets × SockAnswer :=
  match k with
  | .sendto => s.sysSendto task fd data
  | .write => s.sysWrite task fd data

/-- The first `n` bytes were sent, to the peer of the socket: in one datagram, or by TCP. -/
def Sent (s s' : Sockets) (e : NsSocketEntry) (data : List UInt8) (n : Nat) : Prop :=
  if e.type = nsSockDgram then
    e.peerIp ≠ 0 ∧ e.peerPort ≠ 0 ∧ ∃ net,
      netSendUdp s.tcp.net e.peerIp (if e.bound then e.localPort else 40000) e.peerPort
        (data.take n) = (net, true) ∧ s' = s.withTcp { s.tcp with net := net }
  else ∃ i t, e.netConnId = some i ∧ netTcpSend s.tcp i (data.take n) = (t, n) ∧ s' = s.withTcp t

/-- If a call returns a positive number, so many bytes were sent. -/
def ReportsSent (s : Sockets) (task : Fin 8) (k : SendCall) (fd : Int) (data : List UInt8) : Prop :=
  let r := s.send task k fd data
  0 < signedWord r.2.rc → (signedWord r.2.rc).toNat ≤ data.length ∧
    ∃ slot, s.entryForFd task fd = some slot ∧
      s.Sent r.1 (s.taskSockets task slot) data (signedWord r.2.rc).toNat

/-- A datagram socket of which a call that sends can say what was sent: `SYS_SENDTO` has a peer, and
what is left of a length of more than 16 bits cannot be sent. -/
def CanReport (s : Sockets) (e : NsSocketEntry) (k : SendCall) (length : Nat) : Prop :=
  e.type = nsSockDgram → e.shutWr = false → 0 < length → length < 2 ^ 31 →
    if e.peerIp ≠ 0 ∧ e.peerPort ≠ 0 then length < 65536 ∨ ¬ s.tcp.net.SendsUdp (length % 65536)
    else k = .write

variable {s : Sockets} {task : Fin 8} {slot : Fin 64} {e : NsSocketEntry} {k : SendCall} {fd : Int}
  {data : List UInt8}

lemma word16Prefix_of_lt (h : data.length < 65536) : word16Prefix data = data := by
  rw [word16Prefix, Nat.mod_eq_of_lt h, List.take_length]

lemma length_word16Prefix (data : List UInt8) :
    (word16Prefix data).length = data.length % 65536 := by
  rw [word16Prefix, List.length_take, min_eq_left (Nat.mod_le _ _)]

lemma reportsSent_of_nonpos {rc : Int} (hrc : (s.send task k fd data).2.rc = rc)
    (h : signedWord rc ≤ 0) : s.ReportsSent task k fd data :=
  fun hpos => absurd hpos (not_lt.2 (hrc ▸ h))

lemma signedWord_wouldBlock : signedWord nsErrWouldBlock ≤ 0 := by decide
lemma signedWord_invalidArg : signedWord nsErrInvalidArg ≤ 0 := by decide

lemma rc_of_none (hfd : s.entryForFd task fd = none) :
    (s.send task k fd data).2.rc = nsErrInvalidArg := by
  cases k
  · simp only [send, sysSendto, hfd]
    rfl
  · simp only [send, sysWrite, hfd]
    rfl

lemma rc_of_args (hfd : s.entryForFd task fd = some slot)
    (hargs : data.length = 0 ∨ (s.taskSockets task slot).shutWr = true) :
    (s.send task k fd data).2.rc = nsErrInvalidArg := by
  cases k
  · simp only [send, sysSendto, hfd, if_pos hargs]
    rfl
  · simp only [send, sysWrite, hfd, if_pos hargs]
    rfl

section

variable (hfd : s.entryForFd task fd = some slot) (hlen : data.length ≠ 0)
  (hshut : (s.taskSockets task slot).shutWr = false)
include hfd hlen hshut

lemma call_send : s.send task k fd data =
      if (s.taskSockets task slot).type = nsSockDgram then
        if (s.taskSockets task slot).peerIp ≠ 0 ∧ (s.taskSockets task slot).peerPort ≠ 0 then
          ((s.dgramSend (s.taskSockets task slot) data).1,
            ⟨if (s.dgramSend (s.taskSockets task slot) data).2 then data.length
              else nsErrWouldBlock,
              []⟩)
        else (s, ⟨if k = .sendto then data.length else -4, []⟩)
      else
        match (s.taskSockets task slot).netConnId with
        | none => (s, ⟨if k = .sendto then nsErrInvalidArg else -4, []⟩)
        | some i => s.streamSend (s.taskSockets task slot) i data := by
  cases k with
  | sendto =>
    simp only [send, sysSendto, hfd, hlen, hshut, Bool.false_eq_true, or_self,
      if_false,
      if_true]
    rfl
  | write =>
    simp only [send, sysWrite, hfd, hlen, hshut, Bool.false_eq_true, or_self,
      if_false,
      reduceCtorEq]
    rfl

lemma reportsSent_stream
    (htype : (s.taskSockets task slot).type ≠ nsSockDgram) : s.ReportsSent task k fd data := by
  have hcall := call_send (k := k) hfd hlen hshut
  rw [if_neg htype] at hcall
  cases hid : (s.taskSockets task slot).netConnId with
  | none =>
    rw [hid] at hcall
    refine reportsSent_of_nonpos (congrArg (fun r => r.2.rc) hcall) ?_
    cases k
    · exact signedWord_invalidArg
    · exact (by decide : signedWord (-4) ≤ 0)
  | some i =>
    rw [hid] at hcall
    dsimp only at hcall
    unfold streamSend at hcall
    split at hcall
    · exact reportsSent_of_nonpos (congrArg (fun r => r.2.rc) hcall) signedWord_wouldBlock
    · dsimp only at hcall
      generalize hn : (netTcpSend s.tcp i (word16Prefix data)).2 = n at hcall
      intro hpos
      rw [hcall] at hpos ⊢
      have hle : n ≤ tcpMaxPayload := by
        by_contra hgt
        have hzero : n ≠ 0 := by omega
        exact hgt ((netTcpSend_take s.tcp i hn hzero).1.trans (min_le_right _ _))
      have hword : signedWord n = n := signedWord_of_lt (by unfold tcpMaxPayload at hle; omega)
      rw [hword] at hpos ⊢
      obtain ⟨hmin, hsame⟩ := netTcpSend_take s.tcp i hn (by omega)
      have hcut : n ≤ (word16Prefix data).length := hmin.trans (min_le_left _ _)
      have hshort : (word16Prefix data).length ≤ data.length := List.length_take_le' ..
      have htake : (word16Prefix data).take n = data.take n := by
        rw [length_word16Prefix] at hcut
        rw [word16Prefix, List.take_take, min_eq_left hcut]
      rw [htake] at hsame
      refine ⟨hcut.trans hshort, slot, hfd, ?_⟩
      rw [Sent, if_neg htype]
      exact ⟨i, _, hid, hsame, rfl⟩

lemma reportsSent_unconnected (h32 : data.length < 2 ^ 32)
    (htype : (s.taskSockets task slot).type = nsSockDgram)
    (hpeer : ¬ ((s.taskSockets task slot).peerIp ≠ 0 ∧ (s.taskSockets task slot).peerPort ≠ 0)) :
    s.ReportsSent task k fd data ↔ (data.length < 2 ^ 31 → k = .write) := by
  have hcall := call_send (k := k) hfd hlen hshut
  rw [if_pos htype, if_neg hpeer] at hcall
  constructor
  · intro h hsmall
    by_contra hk
    obtain rfl : k = .sendto := by
      cases k
      · rfl
      · exact absurd rfl hk
    unfold ReportsSent at h
    rw [hcall, if_pos rfl] at h
    dsimp only at h
    rw [signedWord_of_lt hsmall] at h
    obtain ⟨-, slot', hfd', hsent⟩ := h (by omega)
    obtain rfl : slot = slot' := Option.some.inj (hfd.symm.trans hfd')
    rw [Sent, if_pos htype] at hsent
    exact hpeer ⟨hsent.1, hsent.2.1⟩
  · intro h
    refine reportsSent_of_nonpos (congrArg (fun r => r.2.rc) hcall) ?_
    dsimp only
    split_ifs with hk
    · subst hk
      rcases Nat.lt_or_ge data.length (2 ^ 31) with hsmall | hlarge
      · exact absurd (h hsmall) (by decide)
      · exact (signedWord_of_ge hlarge h32).le
    · decide

/-- A datagram socket with a peer. -/
lemma reportsSent_connected (h32 : data.length < 2 ^ 32)
    (htype : (s.taskSockets task slot).type = nsSockDgram)
    (hpeer : (s.taskSockets task slot).peerIp ≠ 0 ∧ (s.taskSockets task slot).peerPort ≠ 0) :
    s.ReportsSent task k fd data ↔ (data.length < 2 ^ 31 → data.length < 65536 ∨
      ¬ s.tcp.net.SendsUdp (data.length % 65536)) := by
  have hcall := call_send (k := k) hfd hlen hshut
  rw [if_pos htype, if_pos hpeer] at hcall
  have haccepted : (s.dgramSend (s.taskSockets task slot) data).2 = true ↔
      s.tcp.net.SendsUdp (data.length % 65536) := by
    rw [← length_word16Prefix]
    exact netSendUdp_snd ..
  by_cases hsends : s.tcp.net.SendsUdp (data.length % 65536)
  swap
  · rw [if_neg (mt haccepted.1 hsends)] at hcall
    exact ⟨fun _ _ => Or.inr hsends, fun _ =>
      reportsSent_of_nonpos (congrArg (fun r => r.2.rc) hcall) signedWord_wouldBlock⟩
  rw [if_pos (haccepted.2 hsends)] at hcall
  rcases Nat.lt_or_ge data.length (2 ^ 31) with hsmall | hlarge
  swap
  · exact ⟨fun _ h => absurd h (not_lt.2 hlarge), fun _ => reportsSent_of_nonpos
      (congrArg (fun r => r.2.rc) hcall) (signedWord_of_ge hlarge h32).le⟩
  have hword : signedWord data.length = data.length := signedWord_of_lt hsmall
  constructor
  · -- more than 16 bits of length are never sent as they are
    intro h _
    unfold ReportsSent at h
    rw [hcall] at h
    dsimp only at h
    rw [hword] at h
    obtain ⟨-, slot', hfd', hsent⟩ := h (by omega)
    obtain rfl : slot = slot' := Option.some.inj (hfd.symm.trans hfd')
    rw [Sent, if_pos htype, Int.toNat_natCast, List.take_length] at hsent
    obtain ⟨-, -, net, hudp, -⟩ := hsent
    have hall := (netSendUdp_snd ..).1 (congrArg Prod.snd hudp)
    left
    exact hall.2.2.trans_lt (by decide)
  · intro h _
    have h16 : data.length < 65536 := (h hsmall).resolve_right fun hnot => hnot hsends
    rw [hcall]
    rw [hword]
    refine ⟨(Int.toNat_natCast _).le, slot, hfd, ?_⟩
    rw [Sent, if_pos htype, Int.toNat_natCast, List.take_length]
    refine ⟨hpeer.1, hpeer.2, (netSendUdp s.tcp.net (s.taskSockets task slot).peerIp
      (if (s.taskSockets task slot).bound then (s.taskSockets task slot).localPort else 40000)
      (s.taskSockets task slot).peerPort data).1, ?_, ?_⟩
    · refine Prod.ext rfl ((netSendUdp_snd ..).2 ?_)
      rwa [Nat.mod_eq_of_lt h16] at hsends
    · rw [dgramSend, word16Prefix_of_lt h16]

end

/-- A call reports only what was sent just when it is not a call with a datagram socket that cannot.
-/
theorem reportsSent_iff (s : Sockets) (task : Fin 8) (k : SendCall) (fd : Int) {data : List UInt8}
    (h32 : data.length < 2 ^ 32) : s.ReportsSent task k fd data ↔
      ∀ slot, s.entryForFd task fd = some slot →
        s.CanReport (s.taskSockets task slot) k data.length := by
  cases hfd : s.entryForFd task fd with
  | none =>
    refine ⟨fun _ slot h => (by cases h), fun _ =>
      reportsSent_of_nonpos (rc_of_none hfd) signedWord_invalidArg⟩
  | some slot =>
    simp only [Option.some.injEq, forall_eq']
    by_cases hargs : data.length = 0 ∨ (s.taskSockets task slot).shutWr = true
    · refine ⟨fun _ _ hshut hlen => ?_, fun _ =>
        reportsSent_of_nonpos (rc_of_args hfd hargs) signedWord_invalidArg⟩
      rcases hargs with hempty | hshut'
      · omega
      · rw [hshut] at hshut'
        cases hshut'
    obtain ⟨hlen, hshut⟩ : data.length ≠ 0 ∧ (s.taskSockets task slot).shutWr = false := by
      simpa [not_or] using hargs
    have hpos : 0 < data.length := Nat.pos_of_ne_zero hlen
    by_cases htype : (s.taskSockets task slot).type = nsSockDgram
    swap
    · exact ⟨fun _ h => absurd h htype, fun _ => reportsSent_stream hfd hlen hshut htype⟩
    by_cases hpeer : (s.taskSockets task slot).peerIp ≠ 0 ∧ (s.taskSockets task slot).peerPort ≠ 0
    · rw [reportsSent_connected hfd hlen hshut h32 htype hpeer, CanReport, if_pos hpeer]
      exact ⟨fun h _ _ _ => h, fun h => h htype hshut hpos⟩
    · rw [reportsSent_unconnected hfd hlen hshut h32 htype hpeer, CanReport, if_neg hpeer]
      exact ⟨fun h _ _ _ => h, fun h => h htype hshut hpos⟩

end Sockets

/-- Task 0 has a datagram socket. -/
def dgramSocket : Sockets := Machine.run Sockets.step Sockets.booted [.call 0 (.socket 2 2 0)]

/-- Two bytes are sent to port 9000 of 10.0.2.16. -/
theorem reportsSent_connected_socket :
    (dgramSocket.call 0 (.connect 1024 2 0x0A000210 9000)).1.ReportsSent 0 .sendto 1024 [104, 105] ↔
      ∀ slot, (dgramSocket.call 0 (.connect 1024 2 0x0A000210 9000)).1.entryForFd 0 1024 =
        some slot →
        (dgramSocket.call 0 (.connect 1024 2 0x0A000210 9000)).1.CanReport
          ((dgramSocket.call 0 (.connect 1024 2 0x0A000210 9000)).1.taskSockets 0 slot) .sendto 2 :=
  Sockets.reportsSent_iff _ 0 .sendto 1024 (by decide)

/-- A socket that is not connected says that it has sent two bytes. -/
theorem unconnected_reports_sent :
    (dgramSocket.send 0 .sendto 1024 [104, 105]).2.rc = 2 ∧
      (dgramSocket.taskSockets 0 0).peerIp = 0 ∧
      ¬ dgramSocket.ReportsSent 0 .sendto 1024 [104, 105] := by
  have hrc : (dgramSocket.send 0 .sendto 1024 [104, 105]).2.rc = 2 := by decide
  have hfd : dgramSocket.entryForFd 0 1024 = some 0 := by decide
  have htype : (dgramSocket.taskSockets 0 0).type = nsSockDgram := by decide
  have hpeer : (dgramSocket.taskSockets 0 0).peerIp = 0 := by decide
  refine ⟨hrc, hpeer, fun h => ?_⟩
  have hpos : 0 < signedWord (dgramSocket.send 0 .sendto 1024 [104, 105]).2.rc := by
    rw [hrc]
    decide
  obtain ⟨-, slot, hslot, hsent⟩ := h hpos
  obtain rfl : 0 = slot := Option.some.inj (hfd.symm.trans hslot)
  rw [Sockets.Sent, if_pos htype] at hsent
  exact hsent.1 hpeer

end NeuroSpark
