import NeuroSpark.Net.Connections

/-!
# The table of TCP, entry by entry

A call of TCP, and a segment that arrives, changes few entries of the table, and each of them by
itself. Here every step of the stack becomes an event for each entry; what an entry is after the
step depends on the entry and on its event alone.
-/

namespace NeuroSpark

open Function (update update_self update_of_ne)
open Network

/-- Frames go out. -/
def Net.CardReady (s : Net) : Prop := s.netReady = true ∧ s.rtlIobase ≠ 0

instance (s : Net) : Decidable s.CardReady := inferInstanceAs (Decidable (_ ∧ _))

lemma length_tcpSegment {srcIp dstIp : UInt32} {srcPort dstPort : UInt16} {seq ack : UInt32}
    {flags : UInt8} {payload : List UInt8} :
    (tcpSegment srcIp dstIp srcPort dstPort seq ack flags payload).length =
      20 + payload.length := by
  simp only [tcpSegment, tcpSegmentWith, List.length_append, length_be16, length_be32,
    List.length_cons, List.length_nil]

section

variable {t : Tcp} {dstIp : UInt32} {srcPort dstPort : UInt16} {seq ack : UInt32} {flags : UInt8}
  {payload : List UInt8}

lemma tcpSendSegment_snd :
    (tcpSendSegment t dstIp srcPort dstPort seq ack flags payload).2 = true ↔
      t.net.CardReady ∧ payload.length ≤ 1300 := by
  unfold tcpSendSegment Net.CardReady
  by_cases hready : t.net.netReady = true
  swap
  · simp [hready]
  by_cases hlen : payload.length ≤ 1300
  swap
  · rw [if_pos (Or.inr (Nat.not_le.1 hlen))]
    simp [hlen]
  have hnot : ¬ ((!t.net.netReady) = true ∨ payload.length > 1300) := by
    simp [hready, hlen]
  rw [if_neg hnot]
  dsimp only
  generalize hr : (if dstIp ≠ 0xFFFFFFFF then _ else _ : Net × Mac) = r
  have hcard : r.1.netReady = t.net.netReady ∧ r.1.rtlIobase = t.net.rtlIobase := by
    rw [← hr]
    split
    · split
      · exact ⟨rfl, rfl⟩
      · obtain ⟨arp, -, hsent⟩ := netSendArpRequest_tx t.net (netRouteNextHop t.net dstIp)
        rw [hsent]
        exact ⟨rfl, rfl⟩
    · exact ⟨rfl, rfl⟩
  rw [rtl8139SendFrame_snd, hcard.1, hcard.2, and_iff_left hlen]
  refine length_ipv4Frame_le _ _ ?_
  rw [length_ipv4Header, length_tcpSegment]
  omega

lemma tcpSendSegment_net (t : Tcp) (dstIp : UInt32) (srcPort dstPort : UInt16) (seq ack : UInt32)
    (flags : UInt8) (payload : List UInt8) : ∃ frames,
    (tcpSendSegment t dstIp srcPort dstPort seq ack flags payload).1 =
      { t with net := t.net.send frames } := by
  unfold tcpSendSegment
  dsimp only
  split
  · exact ⟨[], by rw [Net.send_nil]⟩
  generalize hr : (if dstIp ≠ 0xFFFFFFFF then _ else _ : Net × Mac) = r
  obtain ⟨arp, harp⟩ : ∃ arp, r.1 = t.net.send arp := by
    rw [← hr]
    split
    · split
      · exact ⟨[], by rw [Net.send_nil]⟩
      · obtain ⟨arp, -, hsent⟩ := netSendArpRequest_tx t.net (netRouteNextHop t.net dstIp)
        exact ⟨arp, hsent⟩
    · exact ⟨[], by rw [Net.send_nil]⟩
  unfold rtl8139SendFrame
  split_ifs
  · exact ⟨arp, by rw [harp]⟩
  · exact ⟨arp, by rw [harp]⟩
  · exact ⟨_, by rw [harp, Net.send_send]⟩

lemma tcpSendSegment_cases {r : Tcp × Bool}
    (hr : tcpSendSegment t dstIp srcPort dstPort seq ack flags payload = r) :
    ∃ frames, r = ({ t with net := t.net.send frames },
      decide (t.net.CardReady ∧ payload.length ≤ 1300)) := by
  obtain ⟨frames, hnet⟩ := tcpSendSegment_net t dstIp srcPort dstPort seq ack flags payload
  have hsent : (tcpSendSegment t dstIp srcPort dstPort seq ack flags payload).2 = true ↔
      t.net.CardReady ∧ payload.length ≤ 1300 := tcpSendSegment_snd
  rw [hr] at hnet hsent
  refine ⟨frames, Prod.ext hnet ?_⟩
  rw [Bool.eq_iff_iff, hsent, decide_eq_true_iff]

end

/-- The fields of a segment. -/
structure TcpSegment where
  srcPort : UInt16
  dstPort : UInt16
  seq : UInt32
  ack : UInt32
  flags : UInt8
  payload : List UInt8
  deriving DecidableEq

/-- The fields of a segment that passes the checks of `net_handle_tcp_segment`. -/
def tcpDecode (srcIp dstIp : UInt32) (tcp : List UInt8) : Option TcpSegment :=
  if tcp.length < 20 ∨ !tcpChecksumValid srcIp dstIp tcp ∨ tcpHdrLen tcp < 20 ∨
      tcpHdrLen tcp > tcp.length then none
  else some
    { srcPort := UInt16.ofNat (readBe16 tcp 0)
      dstPort := UInt16.ofNat (readBe16 tcp 2)
      seq := readBe32 tcp 4
      ack := readBe32 tcp 8
      flags := tcp.getD 13 0
      payload := tcp.drop (tcpHdrLen tcp) }

/-- The flags of a segment. -/
def TcpSegment.has (g : TcpSegment) (flag : UInt8) : Bool := hasFlag g.flags flag

/-- What is done with a segment that passes the checks. -/
def tcpDeliver (t : Tcp) (srcIp : UInt32) (g : TcpSegment) : Tcp :=
  match tcpFindConn t srcIp g.srcPort g.dstPort with
  | some i => tcpHandleConn t i g.seq g.ack g.flags g.payload
  | none =>
    match tcpFindListener t g.dstPort with
    | none => t
    | some listener =>
      if g.has tcpFlagSyn ∧ !g.has tcpFlagAck then
        tcpHandleSyn t listener srcIp g.srcPort g.dstPort g.seq
      else t

lemma netHandleTcpSegment_eq (t : Tcp) (srcIp dstIp : UInt32) (tcp : List UInt8) :
    netHandleTcpSegment t srcIp dstIp tcp =
      match tcpDecode srcIp dstIp tcp with
      | none => t
      | some g => tcpDeliver t srcIp g := by
  unfold netHandleTcpSegment tcpDecode tcpDeliver tcpHdrLen
  by_cases hshort : tcp.length < 20
  · simp [hshort]
  by_cases hsum : tcpChecksumValid srcIp dstIp tcp = true
  swap
  · simp [hshort, hsum]
  by_cases hhdr : (tcp.getD 12 0 >>> 4).toNat * 4 < 20 ∨
      (tcp.getD 12 0 >>> 4).toNat * 4 > tcp.length
  · simp only [hshort, hsum, if_false, Bool.not_true, Bool.false_eq_true, false_or, if_pos hhdr]
  · simp only [hshort, hsum, if_false, Bool.not_true, Bool.false_eq_true, false_or, if_neg hhdr]
    cases tcpFindConn t srcIp (UInt16.ofNat (readBe16 tcp 0)) (UInt16.ofNat (readBe16 tcp 2)) with
    | some i => rfl
    | none =>
      cases tcpFindListener t (UInt16.ofNat (readBe16 tcp 2)) with
      | none | some => rfl

/-! ### What happens to an entry -/

namespace TcpConn

/-- The entry is not used any more. -/
def drop (c : TcpConn) : TcpConn := { c with used := false, state := .closed }

/-- A segment with the next sequence number was sent and is kept. -/
def track (c : TcpConn) (tick : UInt32) (flags : UInt8) (payload : List UInt8) : TcpConn :=
  let sndNxt :=
    if hasFlag flags tcpFlagSyn || hasFlag flags tcpFlagFin then c.sndNxt + 1 else c.sndNxt
  { tcpTrackOutbound c tick c.sndNxt c.rcvNxt flags payload with
    sndNxt := sndNxt + UInt32.ofNat payload.length }

def takeFin (c : TcpConn) (g : TcpSegment) : TcpConn :=
  if g.has tcpFlagFin then
    { c with rcvNxt := if g.seq = c.rcvNxt then c.rcvNxt + 1 else c.rcvNxt, state := .closeWait }
  else c

/-- A segment arrives; `lost` says that its payload is lost by an injected fault. -/
def hear (c : TcpConn) (lost : Bool) (g : TcpSegment) : TcpConn :=
  if g.has tcpFlagRst then { c with state := .closed, used := false }
  else match c.state with
    | .closing =>
      if g.has tcpFlagAck && g.ack ≥ c.sndNxt then
        { c with sndUna := g.ack, waitingAck := false, state := .closed, used := false }
      else if g.has tcpFlagFin then
        { c with rcvNxt := if g.seq = c.rcvNxt then c.rcvNxt + 1 else c.rcvNxt }
      else c
    | .synSent =>
      if g.has tcpFlagSyn ∧ g.has tcpFlagAck ∧ g.ack = c.sndNxt then
        { c with rcvNxt := g.seq + 1, sndUna := g.ack, state := .established, waitingAck := false }
      else c
    | .synRcvd =>
      if g.has tcpFlagAck ∧ g.ack = c.sndNxt then
        { c with sndUna := g.ack, state := .established, waitingAck := false }
      else c
    | .established | .closeWait =>
      let c := tcpTakeAck c g.ack g.flags
      if g.payload.length > 0 then
        if lost then c else (tcpTakePayload c g.seq g.payload).takeFin g
      else c.takeFin g
    | .closed | .listen => c

lemma hear_open_induction {P : TcpConn → Prop} {c : TcpConn} (lost : Bool) {g : TcpSegment}
    (hack : P (tcpTakeAck c g.ack g.flags))
    (hpayload : ∀ c, P c → P (tcpTakePayload c g.seq g.payload))
    (hfin : ∀ c, P c → P (c.takeFin g)) :
    P (let c := tcpTakeAck c g.ack g.flags
      if g.payload.length > 0 then
        if lost then c else (tcpTakePayload c g.seq g.payload).takeFin g
      else c.takeFin g) := by
  split_ifs
  · exact hack
  · exact hfin _ (hpayload _ hack)
  · exact hfin _ hack

end TcpConn

/-- What a new connection starts with. -/
structure TcpOpening where
  parentListen : Option (Fin 32)
  accepted : Bool
  state : TcpState
  localPort : UInt16
  remotePort : UInt16
  remoteIp : UInt32
  iss : UInt32
  rcvNxt : UInt32
  flags : UInt8

/-- A new connection; it is given up if its first segment cannot be sent. -/
def TcpConn.start (c : TcpConn) (n : TcpOpening) (tick : UInt32) (sent : Bool) : TcpConn :=
  let c := { c.fresh with
    listening := false
    parentListen := n.parentListen
    accepted := n.accepted
    state := n.state
    localPort := n.localPort
    remotePort := n.remotePort
    remoteIp := n.remoteIp
    sndUna := n.iss
    sndNxt := n.iss + 1
    rcvNxt := n.rcvNxt }
  if sent then
    { c with
      lastTxTick := tick
      lastTxSeq := n.iss
      lastTxAck := n.rcvNxt
      lastTxData := []
      lastTxFlags := n.flags
      lastTxRetries := 0
      waitingAck := true }
  else { c with used := false }

/-- A connection that is asked for by a segment at a listener. -/
def tcpRequested (t : Tcp) (listener : Fin 32) (srcIp : UInt32) (g : TcpSegment) : TcpOpening where
  parentListen := some listener
  accepted := false
  state := .synRcvd
  localPort := g.dstPort
  remotePort := g.srcPort
  remoteIp := srcIp
  iss := t.issSeed
  rcvNxt := g.seq + 1
  flags := tcpFlagSyn ||| tcpFlagAck

/-- A connection that is asked for by `net_tcp_connect`. -/
def tcpConnecting (t : Tcp) (dstIp : UInt32) (dstPort srcPort : UInt16) : TcpOpening where
  parentListen := none
  accepted := true
  state := .synSent
  localPort := srcPort
  remotePort := dstPort
  remoteIp := dstIp
  iss := t.issSeed
  rcvNxt := 0
  flags := tcpFlagSyn

/-- The table after a step on entry `i`. -/
structure Tcp.Sets (t t' : Tcp) (i : Fin 32) (c : TcpConn) : Prop where
  conns : t'.conns = Function.update t.conns i c
  issSeed : t'.issSeed = t.issSeed
  net : ∃ frames prng, t'.net = { t.net.send frames with netFaultPrngState := prng }

section

variable {t t' t'' : Tcp} {i : Fin 32} {c c' : TcpConn}

lemma Tcp.Sets.refl (t : Tcp) (i : Fin 32) : t.Sets t i (t.conns i) where
  conns := (Function.update_eq_self i t.conns).symm
  issSeed := rfl
  net := ⟨[], t.net.netFaultPrngState, by rw [Net.send_nil]⟩

lemma Tcp.Sets.self (h : t.Sets t' i c) : t'.conns i = c := by
  rw [h.conns, update_self]

lemma Tcp.Sets.trans (h : t.Sets t' i c) (h' : t'.Sets t'' i c') : t.Sets t'' i c' where
  conns := by rw [h'.conns, h.conns, Function.update_idem]
  issSeed := h'.issSeed.trans h.issSeed
  net := by
    obtain ⟨frames, prng, hnet⟩ := h.net
    obtain ⟨frames', prng', hnet'⟩ := h'.net
    refine ⟨frames ++ frames', prng', ?_⟩
    rw [hnet', hnet, ← Net.send_send]
    rfl

lemma Tcp.Sets.tick (h : t.Sets t' i c) : t'.net.tick = t.net.tick := by
  obtain ⟨frames, prng, hnet⟩ := h.net
  rw [hnet]
  rfl

lemma Tcp.Sets.ready (h : t.Sets t' i c) : decide t'.net.CardReady = decide t.net.CardReady := by
  obtain ⟨frames, prng, hnet⟩ := h.net
  rw [hnet]
  rfl

section

variable (t : Tcp) (i : Fin 32)

lemma Tcp.sets_setConn (c : TcpConn) : t.Sets (t.setConn i c) i c where
  conns := rfl
  issSeed := rfl
  net := ⟨[], t.net.netFaultPrngState, by rw [Net.send_nil]; rfl⟩

lemma Tcp.sets_send (dstIp : UInt32) (srcPort dstPort : UInt16) (seq ack : UInt32) (flags : UInt8)
    (payload : List UInt8) :
    t.Sets (tcpSendSegment t dstIp srcPort dstPort seq ack flags payload).1 i (t.conns i) := by
  obtain ⟨frames, hsent⟩ := tcpSendSegment_net t dstIp srcPort dstPort seq ack flags payload
  rw [hsent]
  exact ⟨(Function.update_eq_self i t.conns).symm, rfl, frames, t.net.netFaultPrngState, rfl⟩

lemma Tcp.sets_ack (c : TcpConn) : t.Sets (tcpSendAck (t.setConn i c) i) i c := by
  have hack := Tcp.sets_send (t.setConn i c) i c.remoteIp c.localPort c.remotePort c.sndNxt c.rcvNxt
    tcpFlagAck []
  unfold tcpSendAck
  rw [t.setConn_self] at hack ⊢
  exact (t.sets_setConn i c).trans hack

lemma tcpTakeFin_sets (g : TcpSegment) :
    t.Sets (tcpTakeFin t i g.seq g.flags) i ((t.conns i).takeFin g) := by
  unfold tcpTakeFin TcpConn.takeFin TcpSegment.has
  split
  · exact t.sets_ack i _
  · exact Tcp.Sets.refl t i

/-- A payload that arrives now is lost. -/
def Net.losesPayload (s : Net) : Bool := (netFaultShouldApply s s.netFaultLossPercent).2

lemma tcpHandleEstablished_sets (g : TcpSegment) :
    t.Sets (tcpHandleEstablished t i g.seq g.ack g.flags g.payload) i
      (let c := tcpTakeAck (t.conns i) g.ack g.flags
      if g.payload.length > 0 then
        if t.net.losesPayload then c else (tcpTakePayload c g.seq g.payload).takeFin g
      else c.takeFin g) := by
  have hfirst := t.sets_setConn i (tcpTakeAck (t.conns i) g.ack g.flags)
  have hloses : (t.setConn i (tcpTakeAck (t.conns i) g.ack g.flags)).net.losesPayload =
    t.net.losesPayload := rfl
  unfold tcpHandleEstablished
  dsimp only
  rw [← hloses, Net.losesPayload]
  generalize t.setConn i (tcpTakeAck (t.conns i) g.ack g.flags) = t₁ at hfirst ⊢
  rw [← hfirst.self]
  split
  · obtain ⟨prng, hprng⟩ := netFaultShouldApply_frame t₁.net t₁.net.netFaultLossPercent
    have hfault : t₁.Sets { t₁ with net :=
        (netFaultShouldApply t₁.net t₁.net.netFaultLossPercent).1 } i (t₁.conns i) :=
      ⟨(Function.update_eq_self i t₁.conns).symm, rfl, [], prng, by rw [hprng, Net.send_nil]⟩
    have hself := hfault.self
    generalize ({ t₁ with net := (netFaultShouldApply t₁.net t₁.net.netFaultLossPercent).1 } :
      Tcp) = t₂ at hfault hself ⊢
    split
    · refine (hfirst.trans hfault).trans ?_
      rw [← hself]
      exact Tcp.sets_send ..
    · have hpayload := t₂.sets_ack i (tcpTakePayload (t₂.conns i) g.seq g.payload)
      have hfin := tcpTakeFin_sets
        (tcpSendAck (t₂.setConn i (tcpTakePayload (t₂.conns i) g.seq g.payload)) i) i g
      rw [hpayload.self] at hfin
      rw [← hself]
      exact ((hfirst.trans hfault).trans hpayload).trans hfin
  · exact hfirst.trans (tcpTakeFin_sets t₁ i g)

lemma tcpHandleConn_sets (g : TcpSegment) :
    t.Sets (tcpHandleConn t i g.seq g.ack g.flags g.payload) i
      ((t.conns i).hear t.net.losesPayload g) := by
  unfold tcpHandleConn TcpConn.hear TcpSegment.has
  dsimp only
  split
  · exact t.sets_setConn i _
  cases hstate : (t.conns i).state with
  | closing =>
    simp only [tcpHandleClosing]
    split
    · exact t.sets_setConn i _
    split
    · rw [← hstate]
      exact t.sets_ack i _
    · exact Tcp.Sets.refl t i
  | synSent =>
    simp only [tcpHandleSynSent]
    split
    · exact t.sets_ack i _
    · exact Tcp.Sets.refl t i
  | synRcvd =>
    simp only [tcpHandleSynRcvd]
    split
    · exact t.sets_setConn i _
    · exact Tcp.Sets.refl t i
  | established | closeWait => exact tcpHandleEstablished_sets t i g
  | closed | listen => exact Tcp.Sets.refl t i

end

lemma tcpHandleSyn_conns (t : Tcp) (listener : Fin 32) (srcIp : UInt32) (g : TcpSegment) :
    (tcpFreeConn t = none → tcpHandleSyn t listener srcIp g.srcPort g.dstPort g.seq = t) ∧
      ∀ i, tcpFreeConn t = some i →
        (tcpHandleSyn t listener srcIp g.srcPort g.dstPort g.seq).conns =
          update t.conns i
            ((t.conns i).start (tcpRequested t listener srcIp g) t.net.tick t.net.CardReady) := by
  unfold tcpHandleSyn tcpAllocConn
  cases hfree : tcpFreeConn t with
  | none => exact ⟨fun _ => rfl, fun i h => by cases h⟩
  | some i =>
    dsimp only
    generalize hr : tcpSendSegment _ _ _ _ _ _ _ _ = r
    obtain ⟨frames, rfl⟩ := tcpSendSegment_cases hr
    by_cases hready : t.net.CardReady
    · simp [hready, Tcp.setConn, TcpConn.start, tcpRequested]
    · simp [hready, Tcp.setConn, TcpConn.start, tcpRequested]

lemma netTcpConnect_conns (t : Tcp) {dstIp : UInt32} {dstPort srcPort : UInt16} {i : Fin 32}
    (hargs : ¬ (dstIp = 0 ∨ dstPort = 0 ∨ srcPort = 0)) (hfree : tcpFreeConn t = some i) :
    (netTcpConnect t dstIp dstPort srcPort).1.conns = update t.conns i
        ((t.conns i).start (tcpConnecting t dstIp dstPort srcPort) t.net.tick t.net.CardReady) ∧
      (netTcpConnect t dstIp dstPort srcPort).2 = if t.net.CardReady then some i else none := by
  unfold netTcpConnect tcpAllocConn
  rw [if_neg hargs, hfree]
  dsimp only
  generalize hr : tcpSendSegment _ _ _ _ _ _ _ _ = r
  obtain ⟨frames, rfl⟩ := tcpSendSegment_cases hr
  by_cases hready : t.net.CardReady
  · simp [hready, Tcp.setConn, TcpConn.start, tcpConnecting]
  · simp [hready, Tcp.setConn, TcpConn.start, tcpConnecting]

lemma netTcpConnect_none (t : Tcp) {dstIp : UInt32} {dstPort srcPort : UInt16}
    (h : (dstIp = 0 ∨ dstPort = 0 ∨ srcPort = 0) ∨ tcpFreeConn t = none) :
    netTcpConnect t dstIp dstPort srcPort = (t, none) := by
  unfold netTcpConnect tcpAllocConn
  split_ifs with hargs
  · rfl
  · rw [h.resolve_left hargs]

lemma tcpSendAndTrack_eq (t : Tcp) (i : Fin 32) (flags : UInt8) {payload : List UInt8}
    (hlen : payload.length ≤ 1300) : ∃ frames, tcpSendAndTrack t i flags payload =
      if t.net.CardReady then
        ({ t with net := t.net.send frames }.setConn i
          ((t.conns i).track t.net.tick flags payload), true)
      else ({ t with net := t.net.send frames }, false) := by
  unfold tcpSendAndTrack
  dsimp only
  generalize hr : tcpSendSegment _ _ _ _ _ _ _ _ = r
  obtain ⟨frames, rfl⟩ := tcpSendSegment_cases hr
  refine ⟨frames, ?_⟩
  by_cases hready : t.net.CardReady
  · simp [hready, hlen, TcpConn.track, tcpTrackOutbound]
  · simp [hready]

lemma length_take_tcpMaxPayload (payload : List UInt8) :
    (payload.take tcpMaxPayload).length ≤ 1300 := by
  rw [List.length_take, tcpMaxPayload]
  omega

end

variable {t : Tcp} {i : Fin 32}

/-! ### Steps -/

/-- A call of TCP, a segment that arrives, or whatever else happens in the network stack. -/
inductive TcpOp where
  | listen (port : UInt16)
  | unlisten (port : UInt16)
  | connect (dstIp : UInt32) (dstPort srcPort : UInt16)
  | accept (port : UInt16)
  | send (i : Fin 32) (payload : List UInt8)
  | recv (i : Fin 32) (maxLen : Nat)
  | close (i : Fin 32)
  | poll
  | segment (srcIp dstIp : UInt32) (tcp : List UInt8)
  | outside (net : Net)

inductive TcpAnswer where
  | done
  | conn (i : Option (Fin 32))
  | accepted (r : Option (Fin 32 × UInt32 × UInt16))
  | sent (n : Nat)
  | received (data : List UInt8)
  deriving DecidableEq

def Tcp.step (t : Tcp) : TcpOp → Tcp × TcpAnswer
  | .listen port => ((netTcpListen t port).1, .conn (netTcpListen t port).2)
  | .unlisten port => (netTcpUnlisten t port, .done)
  | .connect dstIp dstPort srcPort =>
    ((netTcpConnect t dstIp dstPort srcPort).1, .conn (netTcpConnect t dstIp dstPort srcPort).2)
  | .accept port => ((netTcpAccept t port).1, .accepted (netTcpAccept t port).2)
  | .send i payload => ((netTcpSend t i payload).1, .sent (netTcpSend t i payload).2)
  | .recv i maxLen => ((netTcpRecv t i maxLen).1, .received (netTcpRecv t i maxLen).2)
  | .close i => (netTcpClose t i, .done)
  | .poll => (netTcpPoll t, .done)
  | .segment srcIp dstIp tcp => (netHandleTcpSegment t srcIp dstIp tcp, .done)
  | .outside net => ({ t with net := net }, .done)

/-- What happens to one entry. -/
inductive ConnEvent where
  | idle
  | listen (port : UInt16)
  | unlisten
  | start (n : TcpOpening) (tick : UInt32) (sent : Bool)
  | accept
  | send (tick : UInt32) (payload : List UInt8)
  | fin (tick : UInt32)
  | drop
  | retransmit (tick : UInt32)
  | hear (lost : Bool) (g : TcpSegment)
  | recv

def ConnEvent.apply : ConnEvent → TcpConn → TcpConn
  | .idle, c => c
  | .listen port, c =>
    { c.fresh with listening := true, state := .listen, localPort := port, accepted := true }
  | .unlisten, c => { c with used := false }
  | .start n tick sent, c => c.start n tick sent
  | .accept, c => { c with accepted := true }
  | .send tick payload, c => c.track tick (tcpFlagAck ||| tcpFlagPsh) payload
  | .fin tick, c => { c.track tick (tcpFlagFin ||| tcpFlagAck) [] with state := .closing }
  | .drop, c => c.drop
  | .retransmit tick, c => { c with lastTxTick := tick, lastTxRetries := c.lastTxRetries + 1 }
  | .hear lost g, c => c.hear lost g
  | .recv, c =>
    if h : 0 < c.rxQueue.count then
      { c with rxQueue := c.rxQueue.pop (c.rxQueue.slots c.rxQueue.head) h }
    else c

/-- What a segment does that passes the checks. -/
def Tcp.segmentEvent (t : Tcp) (srcIp : UInt32) (g : TcpSegment) (j : Fin 32) : ConnEvent :=
  match tcpFindConn t srcIp g.srcPort g.dstPort with
  | some i => if i = j then .hear t.net.losesPayload g else .idle
  | none =>
    match tcpFindListener t g.dstPort with
    | none => .idle
    | some listener =>
      if (g.has tcpFlagSyn ∧ !g.has tcpFlagAck) ∧ tcpFreeConn t = some j then
        .start (tcpRequested t listener srcIp g) t.net.tick t.net.CardReady
      else .idle

/-- What the timer does to an entry. -/
def TcpConn.pollEvent (c : TcpConn) (tick : UInt32) (ready : Bool) : ConnEvent :=
  if !c.used ∨ c.listening ∨ !c.waitingAck then .idle
  else if (tick - c.lastTxTick).toNat ≥ tcpRetxTicks <<< min c.lastTxRetries 4 then
    let maxRetries :=
      if c.state = .synSent ∨ c.state = .synRcvd then tcpRetxMax + 2 else tcpRetxMax
    if c.lastTxRetries ≥ maxRetries then .drop
    else if ready ∧ c.lastTxData.length ≤ 1300 then .retransmit tick
    else .idle
  else .idle

/-- The event of a step for each entry. -/
def Tcp.eventAt (t : Tcp) : TcpOp → Fin 32 → ConnEvent
  | .listen port, j =>
    if ¬ (port = 0 ∨ (tcpFindListener t port).isSome) ∧ tcpFreeConn t = some j then .listen port
    else .idle
  | .unlisten port, j => if tcpFindListener t port = some j then .unlisten else .idle
  | .connect dstIp dstPort srcPort, j =>
    if ¬ (dstIp = 0 ∨ dstPort = 0 ∨ srcPort = 0) ∧ tcpFreeConn t = some j then
      .start (tcpConnecting t dstIp dstPort srcPort) t.net.tick t.net.CardReady
    else .idle
  | .accept port, j =>
    if (tcpFindListener t port).bind (tcpPending t) = some j then .accept else .idle
  | .send i payload, j =>
    if i = j ∧ netTcpCanSend t i ∧ payload.length ≠ 0 ∧ t.net.CardReady then
      .send t.net.tick (payload.take tcpMaxPayload)
    else .idle
  | .recv i maxLen, j =>
    if i = j ∧ maxLen ≠ 0 ∧ (t.conns i).used ∧ !(t.conns i).listening then .recv else .idle
  | .close i, j =>
    let c := t.conns i
    if i = j ∧ c.used then
      if !c.listening ∧ (c.state = .established ∨ c.state = .closeWait) ∧ t.net.CardReady then
        .fin t.net.tick
      else .drop
    else .idle
  | .poll, j => (t.conns j).pollEvent t.net.tick t.net.CardReady
  | .segment srcIp dstIp tcp, j =>
    match tcpDecode srcIp dstIp tcp with
    | none => .idle
    | some g => t.segmentEvent srcIp g j
  | .outside _, _ => .idle

/-! ### The events are what happens -/

/-- The timer at an entry. -/
def tcpPollConn (t : Tcp) (i : Fin 32) : Tcp :=
  let c := t.conns i
  if !c.used ∨ c.listening ∨ !c.waitingAck then t
  else if (t.net.tick - c.lastTxTick).toNat ≥ tcpRetxTicks <<< min c.lastTxRetries 4 then
    (tcpRetransmitLast t i).1
  else t

lemma tcpPollConn_sets (t : Tcp) (i : Fin 32) : t.Sets (tcpPollConn t i) i
    (((t.conns i).pollEvent t.net.tick t.net.CardReady).apply (t.conns i)) := by
  unfold tcpPollConn TcpConn.pollEvent
  dsimp only
  split
  · exact Tcp.Sets.refl t i
  rename_i hdue
  split
  swap
  · exact Tcp.Sets.refl t i
  unfold tcpRetransmitLast
  dsimp only
  generalize (if (t.conns i).state = .synSent ∨ (t.conns i).state = .synRcvd then tcpRetxMax + 2
    else tcpRetxMax) = maxRetries
  rw [if_neg hdue]
  split
  · exact t.sets_setConn i _
  have hsend := Tcp.sets_send t i (t.conns i).remoteIp (t.conns i).localPort (t.conns i).remotePort
    (t.conns i).lastTxSeq (t.conns i).lastTxAck (t.conns i).lastTxFlags (t.conns i).lastTxData
  generalize hr : tcpSendSegment _ _ _ _ _ _ _ _ = r at hsend ⊢
  obtain ⟨frames, rfl⟩ := tcpSendSegment_cases hr
  by_cases hready : t.net.CardReady ∧ (t.conns i).lastTxData.length ≤ 1300
  · simp only [hready, decide_true, Bool.not_true, Bool.false_eq_true, if_false, and_self, if_true]
    exact hsend.trans (Tcp.sets_setConn _ i _)
  · simp only [decide_eq_true_eq, hready, if_false]
    exact hsend

lemma foldl_tcpPollConn {l : List (Fin 32)} (hnodup : l.Nodup) (j : Fin 32) :
    (l.foldl tcpPollConn t).conns j =
      if j ∈ l then ((t.conns j).pollEvent t.net.tick t.net.CardReady).apply (t.conns j)
      else t.conns j := by
  induction l generalizing t with
  | nil => rfl
  | cons i l ih =>
    obtain ⟨hnotin, hnodup⟩ := List.nodup_cons.1 hnodup
    have hset := tcpPollConn_sets t i
    rw [List.foldl_cons, ih hnodup, hset.tick, hset.ready, hset.conns]
    by_cases hj : j = i
    · subst hj
      rw [if_neg hnotin, if_pos List.mem_cons_self, update_self]
    · rw [update_of_ne hj]
      simp only [List.mem_cons, hj, false_or]

lemma netTcpPoll_eq (t : Tcp) : netTcpPoll t = (List.finRange 32).foldl tcpPollConn t := by
  rfl

lemma netTcpPoll_conns (t : Tcp) (j : Fin 32) : (netTcpPoll t).conns j =
    ((t.conns j).pollEvent t.net.tick t.net.CardReady).apply (t.conns j) := by
  rw [netTcpPoll_eq, foldl_tcpPollConn (List.nodup_finRange 32), if_pos (List.mem_finRange j)]

lemma apply_event {t t' : Tcp} {e : ConnEvent} {c : TcpConn}
    (hconns : t'.conns = update t.conns i c) (hc : e.apply (t.conns i) = c) (j : Fin 32) :
    t'.conns j = (if i = j then e else .idle).apply (t.conns j) := by
  rw [hconns]
  by_cases hj : i = j
  · subst hj
    rw [update_self, if_pos rfl, hc]
  · rw [update_of_ne (Ne.symm hj), if_neg hj]
    rfl

section

variable (t : Tcp)

lemma netTcpListen_conns (port : UInt16) (j : Fin 32) :
    (netTcpListen t port).1.conns j = (t.eventAt (.listen port) j).apply (t.conns j) := by
  unfold netTcpListen tcpAllocConn Tcp.eventAt
  dsimp only
  by_cases hargs : port = 0 ∨ (tcpFindListener t port).isSome = true
  · rw [if_pos hargs, if_neg fun h => h.1 hargs]
    rfl
  cases hfree : tcpFreeConn t with
  | none => simp [ConnEvent.apply]
  | some i =>
    simp only [hargs, not_false_eq_true, true_and, Option.some.injEq]
    refine apply_event ?_ rfl j
    simp [Tcp.setConn, ConnEvent.apply]

lemma netTcpUnlisten_conns (port : UInt16) (j : Fin 32) :
    (netTcpUnlisten t port).conns j = (t.eventAt (.unlisten port) j).apply (t.conns j) := by
  unfold netTcpUnlisten Tcp.eventAt
  dsimp only
  cases hfind : tcpFindListener t port with
  | none => simp [ConnEvent.apply]
  | some i =>
    simp only [Option.some.injEq]
    exact apply_event rfl rfl j

lemma netTcpConnect_event (dstIp : UInt32) (dstPort srcPort : UInt16) (j : Fin 32) :
    (netTcpConnect t dstIp dstPort srcPort).1.conns j =
      (t.eventAt (.connect dstIp dstPort srcPort) j).apply (t.conns j) := by
  unfold Tcp.eventAt
  dsimp only
  by_cases hargs : dstIp = 0 ∨ dstPort = 0 ∨ srcPort = 0
  · rw [netTcpConnect_none t (Or.inl hargs), if_neg fun h => h.1 hargs]
    rfl
  cases hfree : tcpFreeConn t with
  | none =>
    rw [netTcpConnect_none t (Or.inr hfree)]
    simp [ConnEvent.apply]
  | some i =>
    simp only [hargs, not_false_eq_true, true_and, Option.some.injEq]
    exact apply_event (netTcpConnect_conns t hargs hfree).1 rfl j

lemma netTcpAccept_event (port : UInt16) (j : Fin 32) :
    (netTcpAccept t port).1.conns j = (t.eventAt (.accept port) j).apply (t.conns j) := by
  unfold netTcpAccept Tcp.eventAt
  dsimp only
  cases tcpFindListener t port with
  | none => simp [ConnEvent.apply]
  | some listener =>
    rw [Option.bind_some]
    dsimp only
    cases tcpPending t listener with
    | none => simp [ConnEvent.apply]
    | some i =>
      simp only [Option.some.injEq]
      exact apply_event rfl rfl j

lemma netTcpRecv_event (i : Fin 32) (maxLen : Nat) (j : Fin 32) :
    (netTcpRecv t i maxLen).1.conns j = (t.eventAt (.recv i maxLen) j).apply (t.conns j) := by
  unfold netTcpRecv Tcp.eventAt
  dsimp only
  by_cases hmax : maxLen = 0
  · simp [hmax, ConnEvent.apply]
  by_cases hconn : (!(t.conns i).used) = true ∨ (t.conns i).listening = true
  · rw [if_neg hmax, if_pos hconn, if_neg]
    · rfl
    · rintro ⟨-, -, hused, hlistening⟩
      simp_all
  have hopen : (t.conns i).used = true ∧ (!(t.conns i).listening) = true := by
    simpa [not_or] using hconn
  rw [if_neg hmax, if_neg hconn]
  by_cases hij : i = j
  swap
  · rw [if_neg fun h => hij h.1]
    split
    · exact t.setConn_of_ne (Ne.symm hij) _
    · rfl
  subst hij
  rw [if_pos ⟨rfl, hmax, hopen⟩, ConnEvent.apply]
  split
  · exact t.setConn_self i _
  · rfl

lemma netTcpSend_event (i : Fin 32) (payload : List UInt8) :
    (∀ j, (netTcpSend t i payload).1.conns j = (t.eventAt (.send i payload) j).apply (t.conns j)) ∧
      (netTcpSend t i payload).2 =
        if netTcpCanSend t i ∧ payload.length ≠ 0 ∧ t.net.CardReady then
          (payload.take tcpMaxPayload).length
        else 0 := by
  unfold Tcp.eventAt
  dsimp only
  by_cases hlen : payload.length = 0
  · simp [netTcpSend, hlen, ConnEvent.apply]
  cases hcan : netTcpCanSend t i with
  | false => simp [netTcpSend_of_not_canSend hcan, ConnEvent.apply]
  | true =>
    obtain ⟨frames, htrack⟩ := tcpSendAndTrack_eq t i (tcpFlagAck ||| tcpFlagPsh)
      (length_take_tcpMaxPayload payload)
    rw [netTcpSend_of_canSend hcan hlen, htrack]
    by_cases hready : t.net.CardReady
    · simp only [hready, if_true, ne_eq, hlen, not_false_eq_true, and_self, and_true]
      exact fun j => apply_event rfl rfl j
    · simp [hready, ConnEvent.apply]

lemma netTcpClose_event (i j : Fin 32) :
    (netTcpClose t i).conns j = (t.eventAt (.close i) j).apply (t.conns j) := by
  unfold netTcpClose Tcp.eventAt
  by_cases hused : (t.conns i).used = true
  swap
  · simp [hused, ConnEvent.apply]
  simp only [hused, and_true]
  by_cases hlistening : (t.conns i).listening = true
  · have hclosed : ¬ ((!(t.conns i).listening) = true ∧ ((t.conns i).state = .established ∨
        (t.conns i).state = .closeWait) ∧ t.net.CardReady) := by simp [hlistening]
    rw [if_pos hlistening, if_neg hclosed]
    exact apply_event rfl rfl j
  rw [if_neg hlistening]
  have hopen : (!(t.conns i).listening) = true := by simp [hlistening]
  simp only [hopen, true_and]
  by_cases hstate : (t.conns i).state = .established ∨ (t.conns i).state = .closeWait
  swap
  · simp only [hstate, if_false, false_and]
    exact apply_event rfl rfl j
  obtain ⟨frames, htrack⟩ : ∃ frames, tcpSendAndTrack t i (tcpFlagFin ||| tcpFlagAck) [] =
      if t.net.CardReady then ({ t with net := t.net.send frames }.setConn i
        ((t.conns i).track t.net.tick (tcpFlagFin ||| tcpFlagAck) []), true)
      else ({ t with net := t.net.send frames }, false) := tcpSendAndTrack_eq t i _ (by decide)
  rw [if_pos hstate, htrack]
  by_cases hready : t.net.CardReady
  · simp only [hready, hstate, if_true, and_self]
    refine apply_event ?_ rfl j
    simp [Tcp.setConn, ConnEvent.apply]
  · simp only [hready, if_false, and_false, Bool.false_eq_true]
    exact apply_event rfl rfl j

lemma tcpDeliver_event (srcIp : UInt32) (g : TcpSegment) (j : Fin 32) :
    (tcpDeliver t srcIp g).conns j = (t.segmentEvent srcIp g j).apply (t.conns j) := by
  unfold tcpDeliver Tcp.segmentEvent
  cases tcpFindConn t srcIp g.srcPort g.dstPort with
  | some i => exact apply_event (tcpHandleConn_sets t i g).conns rfl j
  | none =>
    cases tcpFindListener t g.dstPort with
    | none => rfl
    | some listener =>
      dsimp only
      by_cases hsyn : g.has tcpFlagSyn = true ∧ (!g.has tcpFlagAck) = true
      swap
      · rw [if_neg hsyn, if_neg fun h => hsyn h.1]
        rfl
      obtain ⟨hnone, hsome⟩ := tcpHandleSyn_conns t listener srcIp g
      cases hfree : tcpFreeConn t with
      | none =>
        rw [hnone hfree]
        simp [ConnEvent.apply]
      | some i =>
        simp only [hsyn, true_and, Option.some.injEq, and_self]
        exact apply_event (hsome i hfree) rfl j

/-- After a step every entry is what its event makes of it. -/
theorem Tcp.step_conns (o : TcpOp) (j : Fin 32) :
    (t.step o).1.conns j = (t.eventAt o j).apply (t.conns j) := by
  cases o with
  | listen port => exact netTcpListen_conns t port j
  | unlisten port => exact netTcpUnlisten_conns t port j
  | connect dstIp dstPort srcPort => exact netTcpConnect_event t dstIp dstPort srcPort j
  | accept port => exact netTcpAccept_event t port j
  | send i payload => exact (netTcpSend_event t i payload).1 j
  | recv i maxLen => exact netTcpRecv_event t i maxLen j
  | close i => exact netTcpClose_event t i j
  | poll =>
    simp only [Tcp.step, Tcp.eventAt]
    exact netTcpPoll_conns t j
  | segment srcIp dstIp tcp =>
    simp only [Tcp.step, Tcp.eventAt, netHandleTcpSegment_eq]
    cases tcpDecode srcIp dstIp tcp with
    | none => rfl
    | some g => exact tcpDeliver_event t srcIp g j
  | outside net => rfl

end

/-- A segment that is for an entry of the table. -/
def Tcp.Arrives (t : Tcp) (srcIp dstIp : UInt32) (tcp : List UInt8) (i : Fin 32) (g : TcpSegment) :
    Prop :=
  tcpDecode srcIp dstIp tcp = some g ∧ tcpFindConn t srcIp g.srcPort g.dstPort = some i

lemma Tcp.Arrives.conns {srcIp dstIp : UInt32} {tcp : List UInt8} {g : TcpSegment}
    (h : t.Arrives srcIp dstIp tcp i g) :
    (netHandleTcpSegment t srcIp dstIp tcp).conns i = (t.conns i).hear t.net.losesPayload g := by
  rw [netHandleTcpSegment_eq, h.1]
  rw [tcpDeliver_event, Tcp.segmentEvent, h.2]
  dsimp only
  rw [if_pos rfl]
  rfl

lemma Tcp.eventAt_segment_cases (t : Tcp) (srcIp dstIp : UInt32) (tcp : List UInt8) (j : Fin 32) :
    t.eventAt (.segment srcIp dstIp tcp) j = .idle ∨
      (∃ g, t.Arrives srcIp dstIp tcp j g ∧
        t.eventAt (.segment srcIp dstIp tcp) j = .hear t.net.losesPayload g) ∨
      ∃ g listener, tcpDecode srcIp dstIp tcp = some g ∧
        tcpFindConn t srcIp g.srcPort g.dstPort = none ∧
        tcpFindListener t g.dstPort = some listener ∧ g.has tcpFlagSyn = true ∧
        tcpFreeConn t = some j ∧
        t.eventAt (.segment srcIp dstIp tcp) j =
          .start (tcpRequested t listener srcIp g) t.net.tick t.net.CardReady := by
  unfold Tcp.eventAt Tcp.segmentEvent
  dsimp only
  cases hg : tcpDecode srcIp dstIp tcp with
  | none => exact Or.inl rfl
  | some g =>
    dsimp only
    cases hfind : tcpFindConn t srcIp g.srcPort g.dstPort with
    | some i =>
      by_cases hi : i = j
      · subst hi
        exact Or.inr (Or.inl ⟨g, ⟨hg, hfind⟩, if_pos rfl⟩)
      · exact Or.inl (if_neg hi)
    | none =>
      cases hlistener : tcpFindListener t g.dstPort with
      | none => exact Or.inl rfl
      | some listener =>
        by_cases hnew : (g.has tcpFlagSyn = true ∧ (!g.has tcpFlagAck) = true) ∧
            tcpFreeConn t = some j
        · refine Or.inr (Or.inr ⟨g, listener, rfl, hfind, hlistener, hnew.1.1, hnew.2, ?_⟩)
          exact if_pos hnew
        · exact Or.inl (if_neg hnew)

/-- Only a call sends data or closes. -/
lemma Tcp.called_of_event {o : TcpOp} {j : Fin 32} {tick : UInt32}
    (h : (∃ payload, t.eventAt o j = .send tick payload) ∨ t.eventAt o j = .fin tick) :
    (∃ i data, o = .send i data) ∨ ∃ i, o = .close i := by
  cases o with
  | send i data => exact Or.inl ⟨i, data, rfl⟩
  | close i => exact Or.inr ⟨i, rfl⟩
  | segment srcIp dstIp tcp =>
    rcases t.eventAt_segment_cases srcIp dstIp tcp j with hev | ⟨g, -, hev⟩ |
      ⟨g, l, -, -, -, -, -, hev⟩ <;>
      simp [hev] at h
  | outside net => simp [Tcp.eventAt] at h
  | _ =>
    simp only [Tcp.eventAt, TcpConn.pollEvent] at h
    split_ifs at h <;> simp at h

lemma Tcp.Arrives.eventAt {srcIp dstIp : UInt32} {tcp : List UInt8} {g : TcpSegment}
    (h : t.Arrives srcIp dstIp tcp i g) :
    t.eventAt (.segment srcIp dstIp tcp) i = .hear t.net.losesPayload g := by
  unfold Tcp.eventAt Tcp.segmentEvent
  dsimp only
  rw [h.1]
  dsimp only
  rw [h.2]
  exact if_pos rfl

end NeuroSpark
