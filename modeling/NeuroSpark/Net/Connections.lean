import NeuroSpark.Net.Fragments
import NeuroSpark.Net.Sockets

/-!
# What happens to one connection

Every function of TCP that works on an entry of the table leaves the other entries as they are,
sends only to the peer of its entry, and puts nothing into its queue but what has arrived. A new
connection takes the first free entry.
-/

namespace NeuroSpark

open Network

/-- An address and a port. -/
abbrev Peer := UInt32 × UInt16

def TcpConn.peer (c : TcpConn) : Peer := (c.remoteIp, c.remotePort)

/-- Where a frame with a segment of TCP goes. -/
def frameDest (frame : List UInt8) : Peer := (readBe32 frame 30, UInt16.ofNat (readBe16 frame 36))

/-- All packets that are sent go to some of the peers. -/
def Net.SendsTo (s s' : Net) (peers : Set Peer) : Prop :=
  ∃ frames, s'.tx = s.tx ++ frames ∧
    ∀ frame ∈ frames, readBe16 frame 12 = ethTypeIpv4 → frameDest frame ∈ peers

/-- A step that works on entry `i`; `extra` is what it may put into the queue. -/
structure Tcp.Acts (t t' : Tcp) (i : Fin 32) (extra : Set (List UInt8)) : Prop where
  other : ∀ j ≠ i, t'.conns j = t.conns j
  sent : t.net.SendsTo t'.net {(t.conns i).peer}
  peer : (t'.conns i).peer = (t.conns i).peer
  listening : (t'.conns i).listening = (t.conns i).listening
  accepted : (t'.conns i).accepted = (t.conns i).accepted
  used : (t'.conns i).used = true → (t.conns i).used = true
  queue : ∀ bytes ∈ (t'.conns i).rxQueue.toList, bytes ∈ (t.conns i).rxQueue.toList ∨ bytes ∈ extra

/-! ### Sending -/

section

variable {s s' s'' : Net} {peers : Set Peer}

lemma Net.SendsTo.refl (s : Net) (peers : Set Peer) : s.SendsTo s peers :=
  ⟨[], (List.append_nil _).symm, by simp⟩

lemma Net.SendsTo.of_tx (h : s'.tx = s.tx) : s.SendsTo s' peers :=
  ⟨[], by rw [h, List.append_nil], by simp⟩

lemma Net.SendsTo.trans (h : s.SendsTo s' peers) (h' : s'.SendsTo s'' peers) :
    s.SendsTo s'' peers := by
  obtain ⟨frames, htx, hdest⟩ := h
  obtain ⟨frames', htx', hdest'⟩ := h'
  refine ⟨frames ++ frames', by rw [htx', htx, List.append_assoc], fun frame hframe => ?_⟩
  rcases List.mem_append.1 hframe with hmem | hmem
  · exact hdest frame hmem
  · exact hdest' frame hmem

lemma Net.SendsTo.mono {peers' : Set Peer} (h : s.SendsTo s' peers) (hsub : peers ⊆ peers') :
    s.SendsTo s' peers' := by
  obtain ⟨frames, htx, hdest⟩ := h
  exact ⟨frames, htx, fun frame hframe htype => hsub (hdest frame hframe htype)⟩

end

section

variable {t : Tcp} {dstIp : UInt32} {srcPort dstPort : UInt16} {seq ack : UInt32} {flags : UInt8}
  {payload : List UInt8}

lemma frameDest_ipv4Frame (mac rtlMac : Mac) (totalLen : Nat) (ident : UInt16) (ttl : UInt8)
    (srcIp : UInt32) :
    frameDest (ipv4Frame mac rtlMac (ipv4Header totalLen ident 0 ttl ipProtoTcp srcIp dstIp)
      (tcpSegment srcIp dstIp srcPort dstPort seq ack flags payload)) = (dstIp, dstPort) := by
  obtain ⟨pad, hframe⟩ := ipv4Frame_eq mac rtlMac
    (ipv4Header totalLen ident 0 ttl ipProtoTcp srcIp dstIp)
    (tcpSegment srcIp dstIp srcPort dstPort seq ack flags payload)
  have hpre := length_ethHeader mac rtlMac
  rw [hframe]
  generalize mac.1 ++ rtlMac.1 ++ be16 ethTypeIpv4 = pre at hpre
  generalize hheader : ipv4Header totalLen ident 0 ttl ipProtoTcp srcIp dstIp = header
  have hip : readBe32 (pre ++ (header ++ (tcpSegment srcIp dstIp srcPort dstPort seq ack flags
      payload ++ pad))) 30 = dstIp := by
    rw [← hheader]
    exact (readBe32_append hpre 16).trans ipv4HeaderWith_dst
  have hlength : (pre ++ header).length = 34 := by
    rw [List.length_append, hpre, ← hheader, length_ipv4Header]
  have hport : readBe16 (pre ++ (header ++ (tcpSegment srcIp dstIp srcPort dstPort seq ack flags
      payload ++ pad))) 36 = dstPort.toNat := by
    rw [← List.append_assoc]
    refine (readBe16_append hlength 2).trans ?_
    exact be16_value dstPort.toNat_lt
  rw [frameDest, hip, hport, UInt16.ofNat_toNat]

lemma tcpSendSegment_sends (t : Tcp) (dstIp : UInt32) (srcPort dstPort : UInt16) (seq ack : UInt32)
    (flags : UInt8) (payload : List UInt8) :
    (tcpSendSegment t dstIp srcPort dstPort seq ack flags payload).1.conns = t.conns ∧
      (tcpSendSegment t dstIp srcPort dstPort seq ack flags payload).1.issSeed = t.issSeed ∧
      t.net.SendsTo (tcpSendSegment t dstIp srcPort dstPort seq ack flags payload).1.net
        {(dstIp, dstPort)} := by
  unfold tcpSendSegment
  dsimp only
  split
  · exact ⟨rfl, rfl, Net.SendsTo.refl _ _⟩
  · generalize hr : (if dstIp ≠ 0xFFFFFFFF then _ else _ : Net × Mac) = r
    have hasked : t.net.SendsTo r.1 {(dstIp, dstPort)} := by
      rw [← hr]
      split
      · split
        · exact Net.SendsTo.refl _ _
        · obtain ⟨arp, harp, hsent⟩ := netSendArpRequest_tx t.net (netRouteNextHop t.net dstIp)
          refine ⟨arp, by rw [hsent, Net.send], fun frame hframe htype =>
            absurd htype (harp frame hframe)⟩
      · exact Net.SendsTo.refl _ _
    refine ⟨rfl, rfl, hasked.trans ?_⟩
    unfold rtl8139SendFrame
    split_ifs
    · exact Net.SendsTo.refl _ _
    · exact Net.SendsTo.refl _ _
    · refine ⟨_, rfl, fun frame hframe _ => ?_⟩
      rw [List.mem_singleton.1 hframe]
      exact frameDest_ipv4Frame ..

end

/-! ### Steps on one entry -/

@[simp] lemma Tcp.setConn_net (t : Tcp) (i : Fin 32) (c : TcpConn) :
    (t.setConn i c).net = t.net := rfl

@[simp] lemma Tcp.setConn_self (t : Tcp) (i : Fin 32) (c : TcpConn) : (t.setConn i c).conns i = c :=
  Function.update_self ..

lemma Tcp.setConn_of_ne (t : Tcp) {i j : Fin 32} (h : j ≠ i) (c : TcpConn) :
    (t.setConn i c).conns j = t.conns j := Function.update_of_ne h ..

section

variable {t t' t'' : Tcp} {i : Fin 32} {extra : Set (List UInt8)} {c : TcpConn}
  {payload : List UInt8}

lemma Tcp.Acts.of_conns (hconns : t'.conns = t.conns)
    (hsent : t.net.SendsTo t'.net {(t.conns i).peer}) :
    t.Acts t' i extra where
  other j _ := by rw [hconns]
  sent := hsent
  peer := by rw [hconns]
  listening := by rw [hconns]
  accepted := by rw [hconns]
  used := by rw [hconns]; exact id
  queue bytes hbytes := by rw [hconns] at hbytes; exact Or.inl hbytes

lemma Tcp.Acts.refl (t : Tcp) (i : Fin 32) (extra : Set (List UInt8)) : t.Acts t i extra :=
  Tcp.Acts.of_conns rfl (Net.SendsTo.refl _ _)

lemma Tcp.Acts.trans (h : t.Acts t' i extra) (h' : t'.Acts t'' i extra) : t.Acts t'' i extra where
  other j hj := (h'.other j hj).trans (h.other j hj)
  sent := h.sent.trans (h.peer ▸ h'.sent)
  peer := h'.peer.trans h.peer
  listening := h'.listening.trans h.listening
  accepted := h'.accepted.trans h.accepted
  used hused := h.used (h'.used hused)
  queue bytes hbytes := (h'.queue bytes hbytes).elim (h.queue bytes) Or.inr

section

variable (hpeer : c.peer = (t.conns i).peer) (hlistening : c.listening = (t.conns i).listening)
include hpeer hlistening

section

variable (haccepted : c.accepted = (t.conns i).accepted)
  (hused : c.used = true → (t.conns i).used = true)
include haccepted hused

lemma Tcp.acts_setConn
    (hqueue : ∀ bytes ∈ c.rxQueue.toList, bytes ∈ (t.conns i).rxQueue.toList ∨ bytes ∈ extra) :
    t.Acts (t.setConn i c) i extra where
  other j hj := t.setConn_of_ne hj c
  sent := Net.SendsTo.refl _ _
  peer := by rw [t.setConn_self, hpeer]
  listening := by rw [t.setConn_self, hlistening]
  accepted := by rw [t.setConn_self, haccepted]
  used := by rw [t.setConn_self]; exact hused
  queue := by rw [t.setConn_self]; exact hqueue

lemma Tcp.acts_setConn_keep (hqueue : c.rxQueue = (t.conns i).rxQueue) :
    t.Acts (t.setConn i c) i extra :=
  Tcp.acts_setConn hpeer hlistening haccepted hused fun _ hbytes => Or.inl (hqueue ▸ hbytes)

end

omit hpeer hlistening in
lemma Tcp.acts_send (t : Tcp) (i : Fin 32) (srcPort : UInt16) (seq ack : UInt32) (flags : UInt8)
    (payload : List UInt8) : t.Acts (tcpSendSegment t (t.conns i).remoteIp srcPort
      (t.conns i).remotePort seq ack flags payload).1 i extra := by
  obtain ⟨hconns, -, hsent⟩ := tcpSendSegment_sends t (t.conns i).remoteIp srcPort
    (t.conns i).remotePort seq ack flags payload
  exact Tcp.Acts.of_conns hconns hsent

omit hpeer hlistening in
lemma tcpSendAck_acts (t : Tcp) (i : Fin 32) : t.Acts (tcpSendAck t i) i extra := Tcp.acts_send ..

lemma tcpSendAck_setConn_acts (haccepted : c.accepted = (t.conns i).accepted)
    (hused : c.used = true → (t.conns i).used = true) (hqueue : c.rxQueue = (t.conns i).rxQueue) :
    t.Acts (tcpSendAck (t.setConn i c) i) i extra :=
  (Tcp.acts_setConn_keep hpeer hlistening haccepted hused hqueue).trans (tcpSendAck_acts _ i)

end

lemma tcpSendAndTrack_acts (t : Tcp) (i : Fin 32) (flags : UInt8) (payload : List UInt8) :
    t.Acts (tcpSendAndTrack t i flags payload).1 i extra := by
  have hsend : t.Acts (tcpSendSegment t (t.conns i).remoteIp (t.conns i).localPort
      (t.conns i).remotePort (t.conns i).sndNxt (t.conns i).rcvNxt flags payload).1 i extra :=
    Tcp.acts_send ..
  have hconns := (tcpSendSegment_sends t (t.conns i).remoteIp (t.conns i).localPort
    (t.conns i).remotePort (t.conns i).sndNxt (t.conns i).rcvNxt flags payload).1
  unfold tcpSendAndTrack
  dsimp only
  split
  · exact hsend
  · refine hsend.trans (Tcp.acts_setConn_keep ?_ ?_ ?_ ?_ ?_) <;> rw [hconns]
    · rfl
    · rfl
    · rfl
    · exact id
    · rfl

lemma tcpRetransmitLast_acts (t : Tcp) (i : Fin 32) : t.Acts (tcpRetransmitLast t i).1 i extra := by
  have hsend : t.Acts (tcpSendSegment t (t.conns i).remoteIp (t.conns i).localPort
      (t.conns i).remotePort (t.conns i).lastTxSeq (t.conns i).lastTxAck (t.conns i).lastTxFlags
      (t.conns i).lastTxData).1 i extra := Tcp.acts_send ..
  have hconns := (tcpSendSegment_sends t (t.conns i).remoteIp (t.conns i).localPort
    (t.conns i).remotePort (t.conns i).lastTxSeq (t.conns i).lastTxAck (t.conns i).lastTxFlags
    (t.conns i).lastTxData).1
  unfold tcpRetransmitLast
  dsimp only
  generalize (if (t.conns i).state = .synSent ∨ (t.conns i).state = .synRcvd then tcpRetxMax + 2
    else tcpRetxMax) = maxRetries
  split
  · exact Tcp.Acts.refl t i extra
  split
  · exact Tcp.acts_setConn_keep rfl rfl rfl (by simp) rfl
  split
  · exact hsend
  · refine hsend.trans (Tcp.acts_setConn_keep ?_ ?_ ?_ ?_ ?_) <;> rw [hconns]
    · rfl
    · exact id

/-! ### Segments that arrive -/

lemma tcpQueueRx_spec (c : TcpConn) (payload : List UInt8) : ∃ queue,
    (tcpQueueRx c payload).1 = { c with rxQueue := queue } ∧
      ∀ bytes ∈ queue.toList, bytes ∈ c.rxQueue.toList ∨ bytes = payload := by
  unfold tcpQueueRx
  split_ifs with hempty hlong hroom
  · exact ⟨c.rxQueue, rfl, fun _ h => Or.inl h⟩
  · exact ⟨c.rxQueue, rfl, fun _ h => Or.inl h⟩
  · refine ⟨c.rxQueue.push payload hroom, rfl, fun bytes h => ?_⟩
    rw [RingBuffer.toList_push, List.mem_append, List.mem_singleton] at h
    exact h
  · exact ⟨c.rxQueue, rfl, fun _ h => Or.inl h⟩

lemma tcpTakePayload_acts (t : Tcp) (i : Fin 32) (seq : UInt32) (payload : List UInt8)
    (hextra : payload ∈ extra) :
    t.Acts (t.setConn i (tcpTakePayload (t.conns i) seq payload)) i extra := by
  obtain ⟨queue, hsame, hqueue⟩ := tcpQueueRx_spec (t.conns i) payload
  have hqueue' : ∀ bytes ∈ queue.toList, bytes ∈ (t.conns i).rxQueue.toList ∨ bytes ∈ extra :=
    fun bytes h => (hqueue bytes h).imp_right fun heq => by rwa [heq]
  unfold tcpTakePayload
  dsimp only
  rw [hsame]
  split
  · split
    · exact Tcp.acts_setConn rfl rfl rfl id hqueue'
    · exact Tcp.acts_setConn rfl rfl rfl id hqueue'
  · exact Tcp.acts_setConn_keep rfl rfl rfl id rfl

lemma tcpTakeFin_acts (t : Tcp) (i : Fin 32) (seq : UInt32) (flags : UInt8) :
    t.Acts (tcpTakeFin t i seq flags) i extra := by
  unfold tcpTakeFin
  dsimp only
  split
  · exact tcpSendAck_setConn_acts rfl rfl rfl id rfl
  · exact Tcp.Acts.refl t i extra

lemma netFaultShouldApply_tx (s : Net) (percent : Nat) :
    (netFaultShouldApply s percent).1.tx = s.tx := by
  obtain ⟨prng, hframe⟩ := netFaultShouldApply_frame s percent
  rw [hframe]

section

variable (t : Tcp) (i : Fin 32)

lemma tcpHandleEstablished_acts (seq ack : UInt32) (flags : UInt8) (hextra : payload ∈ extra) :
    t.Acts (tcpHandleEstablished t i seq ack flags payload) i extra := by
  have htake : t.Acts (t.setConn i (tcpTakeAck (t.conns i) ack flags)) i extra := by
    unfold tcpTakeAck
    split
    · exact Tcp.acts_setConn_keep rfl rfl rfl id rfl
    · exact Tcp.acts_setConn_keep rfl rfl rfl id rfl
  unfold tcpHandleEstablished
  dsimp only
  generalize t.setConn i (tcpTakeAck (t.conns i) ack flags) = t₁ at htake ⊢
  split
  · have hfault : t₁.Acts { t₁ with net :=
        (netFaultShouldApply t₁.net t₁.net.netFaultLossPercent).1 } i extra :=
      Tcp.Acts.of_conns rfl (Net.SendsTo.of_tx (netFaultShouldApply_tx _ _))
    have hconns : ({ t₁ with net :=
        (netFaultShouldApply t₁.net t₁.net.netFaultLossPercent).1 } : Tcp).conns = t₁.conns := rfl
    generalize ({ t₁ with net :=
      (netFaultShouldApply t₁.net t₁.net.netFaultLossPercent).1 } : Tcp) = t₂ at hfault hconns ⊢
    rw [← hconns]
    split
    · exact (htake.trans hfault).trans (tcpSendAck_acts t₂ i)
    · have hpayload := tcpTakePayload_acts t₂ i seq payload hextra
      exact (((htake.trans hfault).trans hpayload).trans (tcpSendAck_acts _ i)).trans
        (tcpTakeFin_acts _ i seq flags)
  · exact htake.trans (tcpTakeFin_acts t₁ i seq flags)

lemma tcpHandleConn_acts (seq ack : UInt32) (flags : UInt8)
    (payload : List UInt8) : t.Acts (tcpHandleConn t i seq ack flags payload) i {payload} := by
  unfold tcpHandleConn
  dsimp only
  split
  · exact Tcp.acts_setConn_keep rfl rfl rfl (by simp) rfl
  split
  · unfold tcpHandleClosing
    dsimp only
    split
    · exact Tcp.acts_setConn_keep rfl rfl rfl (by simp) rfl
    split
    · exact tcpSendAck_setConn_acts rfl rfl rfl id rfl
    · exact Tcp.Acts.refl t i _
  · unfold tcpHandleSynSent
    dsimp only
    split
    · exact tcpSendAck_setConn_acts rfl rfl rfl id rfl
    · exact Tcp.Acts.refl t i _
  · unfold tcpHandleSynRcvd
    dsimp only
    split
    · exact Tcp.acts_setConn_keep rfl rfl rfl id rfl
    · exact Tcp.Acts.refl t i _
  · exact tcpHandleEstablished_acts t i seq ack flags rfl
  · exact tcpHandleEstablished_acts t i seq ack flags rfl
  · exact Tcp.Acts.refl t i _
  · exact Tcp.Acts.refl t i _

lemma netTcpSend_acts (payload : List UInt8) : t.Acts (netTcpSend t i payload).1 i extra := by
  unfold netTcpSend
  dsimp only
  split
  · exact Tcp.Acts.refl t i extra
  split
  · exact Tcp.Acts.refl t i extra
  · have hsend : t.Acts (tcpSendAndTrack t i (tcpFlagAck ||| tcpFlagPsh)
        (payload.take tcpMaxPayload)).1 i extra := tcpSendAndTrack_acts ..
    split <;> exact hsend

lemma netTcpRecv_acts (maxLen : Nat) : t.Acts (netTcpRecv t i maxLen).1 i extra ∧
      ((netTcpRecv t i maxLen).2 ≠ [] → (t.conns i).used = true ∧ (t.conns i).listening = false ∧
        ∃ bytes ∈ (t.conns i).rxQueue.toList, (netTcpRecv t i maxLen).2 <+: bytes) := by
  unfold netTcpRecv
  dsimp only
  split
  · exact ⟨Tcp.Acts.refl t i extra, fun h => absurd rfl h⟩
  split
  · exact ⟨Tcp.Acts.refl t i extra, fun h => absurd rfl h⟩
  · rename_i hconn
    split
    · rename_i hcount
      have hpop := RingBuffer.toList_pop (t.conns i).rxQueue
        ((t.conns i).rxQueue.slots (t.conns i).rxQueue.head) hcount
      refine ⟨Tcp.acts_setConn rfl rfl rfl id fun bytes hbytes => Or.inl ?_, fun _ => ?_⟩
      · rw [hpop]
        exact List.mem_cons_of_mem _ hbytes
      · refine ⟨by simpa using (not_or.1 hconn).1, by simpa using (not_or.1 hconn).2, _, ?_,
          List.take_prefix _ _⟩
        rw [hpop]
        exact List.mem_cons_self
    · exact ⟨Tcp.Acts.refl t i extra, fun h => absurd rfl h⟩

lemma netTcpClose_acts : t.Acts (netTcpClose t i) i extra := by
  unfold netTcpClose
  dsimp only
  split
  · exact Tcp.Acts.refl t i extra
  split
  · exact Tcp.acts_setConn_keep rfl rfl rfl (by simp) rfl
  · have hfin : t.Acts (tcpSendAndTrack t i (tcpFlagFin ||| tcpFlagAck) []).1 i extra :=
      tcpSendAndTrack_acts ..
    generalize hr : (if (t.conns i).state = .established ∨ (t.conns i).state = .closeWait then
      tcpSendAndTrack t i (tcpFlagFin ||| tcpFlagAck) [] else (t, false)) = r
    have hact : t.Acts r.1 i extra := by
      rw [← hr]
      split
      · exact hfin
      · exact Tcp.Acts.refl t i extra
    split
    · exact hact.trans (Tcp.acts_setConn_keep rfl rfl rfl id rfl)
    · exact hact.trans (Tcp.acts_setConn_keep rfl rfl rfl (by simp) rfl)

end

lemma netTcpAccept_conns (t : Tcp) (port : UInt16) :
    (∀ i ip port', (netTcpAccept t port).2 = some (i, ip, port') →
      (netTcpAccept t port).1 = t.setConn i { t.conns i with accepted := true } ∧
        (t.conns i).used = true ∧ (t.conns i).listening = false ∧ (t.conns i).accepted = false ∧
        (t.conns i).peer = (ip, port')) ∧
      ((netTcpAccept t port).2 = none → (netTcpAccept t port).1 = t) := by
  unfold netTcpAccept
  cases tcpFindListener t port with
  | none => exact ⟨fun i ip port' h => (by cases h), fun _ => rfl⟩
  | some listener =>
    dsimp only
    cases hpending : tcpPending t listener with
    | none => exact ⟨fun i ip port' h => (by cases h), fun _ => rfl⟩
    | some i =>
      refine ⟨fun i' ip port' h => ?_, fun h => by cases h⟩
      have hprop := List.find?_some hpending
      simp only [Bool.and_eq_true, Bool.not_eq_true', beq_iff_eq] at hprop
      obtain ⟨⟨⟨⟨hused, hlistening⟩, -⟩, -⟩, haccepted⟩ := hprop
      obtain ⟨rfl, rfl, rfl⟩ : i = i' ∧ (t.conns i).remoteIp = ip ∧ (t.conns i).remotePort = port' := by
        simpa using h
      exact ⟨rfl, hused, hlistening, haccepted, rfl⟩

/-! ### New connections -/

/-- A step that takes the first free entry, for a listener or for a connection with `peer`. What is
sent goes there. -/
structure Tcp.Takes (t t' : Tcp) (i : Fin 32) (peer : Peer) : Prop where
  free : (t.conns i).used = false
  other : ∀ j ≠ i, t'.conns j = t.conns j
  sent : t.net.SendsTo t'.net {peer}
  queue : (t'.conns i).rxQueue.toList = []
  peer : (t'.conns i).listening = false → (t'.conns i).peer = peer

lemma tcpFreeConn_spec {i : Fin 32} (h : tcpFreeConn t = some i) : (t.conns i).used = false := by
  simpa using List.find?_some h

lemma Tcp.takes_send {i : Fin 32} {t₁ : Tcp} {dstIp : UInt32} {srcPort dstPort : UInt16}
    {seq ack : UInt32} {flags : UInt8} (hfree : (t.conns i).used = false)
    (hconns : ∀ j ≠ i, t₁.conns j = t.conns j) (hnet : t₁.net = t.net)
    (hqueue : c.rxQueue.toList = []) (hpeer : c.peer = (dstIp, dstPort)) :
    t.Takes ((tcpSendSegment t₁ dstIp srcPort dstPort seq ack flags payload).1.setConn i c) i
      (dstIp, dstPort) := by
  obtain ⟨hsame, -, hsent⟩ := tcpSendSegment_sends t₁ dstIp srcPort dstPort seq ack flags payload
  refine ⟨hfree, fun j hj => ?_, ?_, ?_, fun _ => ?_⟩
  · rw [Tcp.setConn_of_ne _ hj, hsame, hconns j hj]
  · rw [Tcp.setConn_net, ← hnet]
    exact hsent
  · rw [Tcp.setConn_self, hqueue]
  · rw [Tcp.setConn_self, hpeer]

lemma Tcp.setConn_fresh_of_ne (t : Tcp) (i : Fin 32) (c : TcpConn) (seed : UInt32) {j : Fin 32}
    (hj : j ≠ i) :
    ({ (t.setConn i (t.conns i).fresh).setConn i c with issSeed := seed } : Tcp).conns j =
      t.conns j :=
  (Tcp.setConn_of_ne _ hj c).trans (Tcp.setConn_of_ne _ hj _)

lemma tcpHandleSyn_takes (t : Tcp) (listener : Fin 32) (srcIp : UInt32) (srcPort dstPort : UInt16)
    (seq : UInt32) :
    (tcpFreeConn t = none → tcpHandleSyn t listener srcIp srcPort dstPort seq = t) ∧
      ∀ i, tcpFreeConn t = some i →
        t.Takes (tcpHandleSyn t listener srcIp srcPort dstPort seq) i (srcIp, srcPort) := by
  unfold tcpHandleSyn tcpAllocConn
  cases hfree : tcpFreeConn t with
  | none => exact ⟨fun _ => rfl, fun i h => by cases h⟩
  | some i =>
    refine ⟨fun h => (by cases h), ?_⟩
    rintro i ⟨rfl⟩
    dsimp only
    rw [Tcp.setConn_self]
    split
    · refine Tcp.takes_send (tcpFreeConn_spec hfree) ?_ rfl rfl rfl
      exact fun j hj => t.setConn_fresh_of_ne i _ _ hj
    · refine Tcp.takes_send (tcpFreeConn_spec hfree) ?_ rfl rfl rfl
      exact fun j hj => t.setConn_fresh_of_ne i _ _ hj

lemma netTcpConnect_takes (t : Tcp) (dstIp : UInt32) (dstPort srcPort : UInt16) :
    (∀ i, (netTcpConnect t dstIp dstPort srcPort).2 = some i → srcPort ≠ 0 ∧
        tcpFreeConn t = some i ∧ t.Takes (netTcpConnect t dstIp dstPort srcPort).1 i (dstIp, dstPort) ∧
        ((netTcpConnect t dstIp dstPort srcPort).1.conns i).accepted = true ∧
        ((netTcpConnect t dstIp dstPort srcPort).1.conns i).listening = false) ∧
      ((netTcpConnect t dstIp dstPort srcPort).2 = none →
        (netTcpConnect t dstIp dstPort srcPort).1 = t ∨ srcPort ≠ 0 ∧ ∃ i, tcpFreeConn t = some i ∧
          t.Takes (netTcpConnect t dstIp dstPort srcPort).1 i (dstIp, dstPort)) := by
  unfold netTcpConnect tcpAllocConn
  split
  · exact ⟨fun i h => (by cases h), fun _ => Or.inl rfl⟩
  rename_i hargs
  have hport : srcPort ≠ 0 := fun hport => hargs (Or.inr (Or.inr hport))
  cases hfree : tcpFreeConn t with
  | none => exact ⟨fun i h => (by cases h), fun _ => Or.inl rfl⟩
  | some i =>
    dsimp only
    rw [Tcp.setConn_self]
    split
    · refine ⟨fun i h => (by cases h), fun _ => Or.inr ⟨hport, i, rfl, ?_⟩⟩
      refine Tcp.takes_send (tcpFreeConn_spec hfree) ?_ rfl rfl rfl
      exact fun j hj => t.setConn_fresh_of_ne i _ _ hj
    · refine ⟨?_, fun h => by cases h⟩
      rintro i ⟨rfl⟩
      refine ⟨hport, rfl, ?_, ?_, ?_⟩
      · refine Tcp.takes_send (tcpFreeConn_spec hfree) ?_ rfl rfl rfl
        exact fun j hj => t.setConn_fresh_of_ne i _ _ hj
      · rw [Tcp.setConn_self]
      · rw [Tcp.setConn_self]

lemma netTcpListen_takes (t : Tcp) (port : UInt16) (peer : Peer) :
    (∀ i, (netTcpListen t port).2 = some i → (port ≠ 0 ∧ tcpFindListener t port = none) ∧
        tcpFreeConn t = some i ∧ t.Takes (netTcpListen t port).1 i peer ∧
        ((netTcpListen t port).1.conns i).accepted = true ∧
        ((netTcpListen t port).1.conns i).listening = true) ∧
      ((netTcpListen t port).2 = none → (netTcpListen t port).1 = t) := by
  unfold netTcpListen tcpAllocConn
  split
  · exact ⟨fun i h => (by cases h), fun _ => rfl⟩
  rename_i hport
  cases hfree : tcpFreeConn t with
  | none => exact ⟨fun i h => (by cases h), fun _ => rfl⟩
  | some i =>
    refine ⟨?_, fun h => by cases h⟩
    rintro i ⟨rfl⟩
    dsimp only
    rw [Tcp.setConn_self]
    refine ⟨by simpa [not_or] using hport, rfl,
      ⟨tcpFreeConn_spec hfree, fun j hj => ?_, Net.SendsTo.refl _ _, ?_, fun h => ?_⟩, ?_, ?_⟩
    · exact (Tcp.setConn_of_ne _ hj _).trans (Tcp.setConn_of_ne _ hj _)
    · rw [Tcp.setConn_self]
      rfl
    · rw [Tcp.setConn_self] at h
      cases h
    · rw [Tcp.setConn_self]
    · rw [Tcp.setConn_self]

lemma netTcpSend_of_canSend {i : Fin 32} (hcan : netTcpCanSend t i = true)
    (hlen : payload.length ≠ 0) : netTcpSend t i payload =
      if (tcpSendAndTrack t i (tcpFlagAck ||| tcpFlagPsh) (payload.take tcpMaxPayload)).2 = true then
        ((tcpSendAndTrack t i (tcpFlagAck ||| tcpFlagPsh) (payload.take tcpMaxPayload)).1,
          (payload.take tcpMaxPayload).length)
      else ((tcpSendAndTrack t i (tcpFlagAck ||| tcpFlagPsh) (payload.take tcpMaxPayload)).1, 0) := by
  have hconn : ¬ ((!(t.conns i).used) = true ∨ (t.conns i).listening = true ∨
      (t.conns i).state ≠ .established) := by simpa [netTcpCanSend, and_assoc] using hcan
  rw [netTcpSend, if_neg hlen]
  dsimp only
  rw [if_neg hconn]
  generalize tcpSendAndTrack t i (tcpFlagAck ||| tcpFlagPsh) (payload.take tcpMaxPayload) = r
  rcases r with ⟨t', _ | _⟩
  · rfl
  · rfl

lemma netTcpSend_of_not_canSend {i : Fin 32} (hcan : netTcpCanSend t i = false)
    (payload : List UInt8) : netTcpSend t i payload = (t, 0) := by
  have hconn : (!(t.conns i).used) = true ∨ (t.conns i).listening = true ∨
      (t.conns i).state ≠ .established := by
    by_contra hnot
    simp_all [netTcpCanSend]
  rw [netTcpSend]
  split_ifs
  · rfl
  · exact if_pos hconn

lemma netTcpSend_idle {i : Fin 32} (h : (t.conns i).used = false ∨ (t.conns i).listening = true)
    (payload : List UInt8) : (netTcpSend t i payload).1 = t := by
  unfold netTcpSend
  dsimp only
  split
  · rfl
  split
  · rfl
  · rename_i hconn
    rcases h with h | h
    · exact absurd (Or.inl (by simp [h])) hconn
    · exact absurd (Or.inr (Or.inl h)) hconn

lemma netTcpClose_idle {i : Fin 32} (h : (t.conns i).used = false ∨ (t.conns i).listening = true) :
    (netTcpClose t i).net = t.net := by
  unfold netTcpClose
  dsimp only
  split
  · rfl
  split
  · rfl
  · rename_i hused hlistening
    rcases h with h | h
    · exact absurd (by simp [h]) hused
    · exact absurd h hlistening

lemma netTcpUnlisten_acts (t : Tcp) (port : UInt16) :
    netTcpUnlisten t port = t ∨ ∃ i, (t.conns i).listening = true ∧
      (netTcpUnlisten t port).net = t.net ∧ t.Acts (netTcpUnlisten t port) i ∅ := by
  unfold netTcpUnlisten
  cases hfind : tcpFindListener t port with
  | none => exact Or.inl rfl
  | some i =>
    have hlistener := List.find?_some hfind
    simp only [Bool.and_eq_true] at hlistener
    exact Or.inr ⟨i, hlistener.1.2, rfl, Tcp.acts_setConn_keep rfl rfl rfl (by simp) rfl⟩

end

def tcpHdrLen (tcp : List UInt8) : Nat := (tcp.getD 12 0 >>> 4).toNat * 4

/-- The sender of a segment, and what it brings. -/
def segmentHeard (d : Ipv4Datagram) : Peer × List UInt8 :=
  ((d.srcIp, UInt16.ofNat (readBe16 d.payload 0)), d.payload.drop (tcpHdrLen d.payload))

/-- A valid segment that asks a listener for a connection. -/
def TcpRequest (t : Tcp) (d : Ipv4Datagram) : Prop :=
  20 ≤ d.payload.length ∧ tcpChecksumValid d.srcIp d.dstIp d.payload = true ∧
    20 ≤ tcpHdrLen d.payload ∧ tcpHdrLen d.payload ≤ d.payload.length ∧
    tcpFindConn t d.srcIp (UInt16.ofNat (readBe16 d.payload 0)) (UInt16.ofNat (readBe16 d.payload 2)) =
      none ∧
    (tcpFindListener t (UInt16.ofNat (readBe16 d.payload 2))).isSome = true ∧
    hasFlag (d.payload.getD 13 0) tcpFlagSyn = true ∧ hasFlag (d.payload.getD 13 0) tcpFlagAck = false

/-- A segment asks for a connection, or is for a connection with its sender, or changes nothing. -/
lemma netHandleTcpSegment_cases (t : Tcp) (d : Ipv4Datagram) :
    netHandleTcpSegment t d.srcIp d.dstIp d.payload = t ∨
      (TcpRequest t d ∧ ∃ i, tcpFreeConn t = some i ∧
        t.Takes (netHandleTcpSegment t d.srcIp d.dstIp d.payload) i (segmentHeard d).1) ∨
      ∃ i, (t.conns i).peer = (segmentHeard d).1 ∧
        t.Acts (netHandleTcpSegment t d.srcIp d.dstIp d.payload) i {(segmentHeard d).2} := by
  unfold netHandleTcpSegment
  split
  · exact Or.inl rfl
  split
  · exact Or.inl rfl
  rename_i hshort hsum
  dsimp only
  split
  · exact Or.inl rfl
  rename_i hhdr
  cases hfind : tcpFindConn t d.srcIp (UInt16.ofNat (readBe16 d.payload 0))
      (UInt16.ofNat (readBe16 d.payload 2)) with
  | some i =>
    refine Or.inr (Or.inr ⟨i, ?_, tcpHandleConn_acts ..⟩)
    have hprop := List.find?_some hfind
    simp only [Bool.and_eq_true, Bool.not_eq_true', beq_iff_eq] at hprop
    obtain ⟨⟨⟨⟨-, hip⟩, hport⟩, -⟩, -⟩ := hprop
    rw [TcpConn.peer, hip, hport, segmentHeard]
  | none =>
    dsimp only
    cases hlistener : tcpFindListener t (UInt16.ofNat (readBe16 d.payload 2)) with
    | none => exact Or.inl rfl
    | some listener =>
      dsimp only
      split
      · rename_i hflags
        obtain ⟨hnone, htakes⟩ := tcpHandleSyn_takes t listener d.srcIp
          (UInt16.ofNat (readBe16 d.payload 0)) (UInt16.ofNat (readBe16 d.payload 2))
          (readBe32 d.payload 4)
        cases hfree : tcpFreeConn t with
        | none => exact Or.inl (hnone hfree)
        | some i =>
          refine Or.inr (Or.inl ⟨?_, i, rfl, htakes i hfree⟩)
          refine ⟨by omega, by simpa using hsum, ?_, ?_, hfind, by rw [hlistener]; rfl, hflags.1,
            by simpa using hflags.2⟩
          · rw [tcpHdrLen]
            omega
          · rw [tcpHdrLen]
            omega
      · exact Or.inl rfl

end NeuroSpark
