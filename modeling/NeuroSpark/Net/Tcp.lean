import NeuroSpark.Net.Udp

/-!
# TCP

A table of 32 connections and listeners. A connection is taken for a call of `net_tcp_connect` or
for a request that arrives at a listener, and freed when it is closed, when its peer resets it or
when its retransmissions are used up. The counters of `net_rx_stats` are left out.
-/

namespace NeuroSpark

open Network

def tcpMaxPayload : Nat := 1200
def tcpRetxTicks : Nat := 20
def tcpRetxMax : Nat := 5
def tcpFlagFin : UInt8 := 0x01
def tcpFlagSyn : UInt8 := 0x02
def tcpFlagRst : UInt8 := 0x04
def tcpFlagPsh : UInt8 := 0x08
def tcpFlagAck : UInt8 := 0x10

inductive TcpState where
  | closed
  | listen
  | synSent
  | synRcvd
  | established
  | closeWait
  | closing
  deriving DecidableEq

/-- An entry of the table. `parentListen` is the index of the listener, or -1; `lastTxData` has
`last_tx_len` bytes. -/
structure TcpConn where
  used : Bool
  listening : Bool
  parentListen : Option (Fin 32)
  accepted : Bool
  state : TcpState
  localPort : UInt16
  remotePort : UInt16
  remoteIp : UInt32
  sndUna : UInt32
  sndNxt : UInt32
  rcvNxt : UInt32
  rxQueue : RingBuffer (List UInt8) 16
  lastTxTick : UInt32
  lastTxSeq : UInt32
  lastTxAck : UInt32
  lastTxData : List UInt8
  lastTxFlags : UInt8
  lastTxRetries : Nat
  waitingAck : Bool

/-- An entry of the table at the start. -/
def TcpConn.unused : TcpConn where
  used := false
  listening := false
  parentListen := none
  accepted := false
  state := .closed
  localPort := 0
  remotePort := 0
  remoteIp := 0
  sndUna := 0
  sndNxt := 0
  rcvNxt := 0
  rxQueue := RingBuffer.empty [] Sizes.sixteen_pos
  lastTxTick := 0
  lastTxSeq := 0
  lastTxAck := 0
  lastTxData := []
  lastTxFlags := 0
  lastTxRetries := 0
  waitingAck := false

/-- The network stack with `tcp_conns[TCP_MAX_CONNS]` and `tcp_iss_seed`. -/
structure Tcp where
  net : Net
  conns : Fin 32 → TcpConn
  issSeed : UInt32

def Tcp.setConn (t : Tcp) (i : Fin 32) (c : TcpConn) : Tcp :=
  { t with conns := Function.update t.conns i c }

def hasFlag (flags flag : UInt8) : Bool := flags &&& flag ≠ 0

/-- An entry that is taken again. -/
def TcpConn.fresh (c : TcpConn) : TcpConn where
  used := true
  listening := false
  parentListen := none
  accepted := false
  state := .closed
  localPort := 0
  remotePort := 0
  remoteIp := 0
  sndUna := 0
  sndNxt := 0
  rcvNxt := 0
  rxQueue := c.rxQueue.reset
  lastTxTick := 0
  lastTxSeq := 0
  lastTxAck := 0
  lastTxData := []
  lastTxFlags := 0
  lastTxRetries := 0
  waitingAck := false

/-- The first entry that is not used. -/
def tcpFreeConn (t : Tcp) : Option (Fin 32) := (List.finRange 32).find? fun i => !(t.conns i).used

def tcpAllocConn (t : Tcp) : Tcp × Option (Fin 32) :=
  match tcpFreeConn t with
  | none => (t, none)
  | some i => (t.setConn i (t.conns i).fresh, some i)

def tcpFindListener (t : Tcp) (port : UInt16) : Option (Fin 32) :=
  (List.finRange 32).find? fun i =>
    (t.conns i).used && (t.conns i).listening && (t.conns i).localPort == port

def tcpFindConn (t : Tcp) (remoteIp : UInt32) (remotePort localPort : UInt16) : Option (Fin 32) :=
  (List.finRange 32).find? fun i =>
    let c := t.conns i
    c.used && !c.listening && c.remoteIp == remoteIp && c.remotePort == remotePort &&
      c.localPort == localPort && c.state != .closed

def tcpSegmentWith (checksum : Nat) (srcPort dstPort : UInt16) (seq ack : UInt32) (flags : UInt8)
    (payload : List UInt8) : List UInt8 :=
  be16 srcPort.toNat ++ be16 dstPort.toNat ++ be32 seq ++ be32 ack ++ [0x50, flags] ++ be16 4096 ++
    be16 checksum ++ be16 0 ++ payload

/-- The addresses, the protocol and the length that the checksum covers with the segment. -/
def tcpPseudoHeader (srcIp dstIp : UInt32) (tcpLen : Nat) : List UInt8 :=
  be32 srcIp ++ be32 dstIp ++ [0, ipProtoTcp] ++ be16 tcpLen

def tcpSegment (srcIp dstIp : UInt32) (srcPort dstPort : UInt16) (seq ack : UInt32) (flags : UInt8)
    (payload : List UInt8) : List UInt8 :=
  tcpSegmentWith (internetChecksum (tcpPseudoHeader srcIp dstIp (20 + payload.length) ++
    tcpSegmentWith 0 srcPort dstPort seq ack flags payload)) srcPort dstPort seq ack flags payload

def tcpSendSegment (t : Tcp) (dstIp : UInt32) (srcPort dstPort : UInt16) (seq ack : UInt32)
    (flags : UInt8) (payload : List UInt8) : Tcp × Bool :=
  if !t.net.netReady ∨ payload.length > 1300 then (t, false)
  else
    let nextHop := netRouteNextHop t.net dstIp
    let r :=
      if dstIp ≠ 0xFFFFFFFF then
        match arpCacheLookup t.net nextHop with
        | some mac => (t.net, mac)
        | none => ((netSendArpRequest t.net nextHop).1, broadcastMac)
      else (t.net, broadcastMac)
    let header := ipv4Header (40 + payload.length) t.issSeed.toUInt16 0 64 ipProtoTcp t.net.netIp dstIp
    let segment := tcpSegment t.net.netIp dstIp srcPort dstPort seq ack flags payload
    let s := rtl8139SendFrame r.1 (ipv4Frame r.2 t.net.rtlMac header segment)
    ({ t with net := s.1 }, s.2)

def tcpTrackOutbound (c : TcpConn) (tick seq ack : UInt32) (flags : UInt8) (payload : List UInt8) :
    TcpConn :=
  { c with
    lastTxTick := tick
    lastTxSeq := seq
    lastTxAck := ack
    lastTxFlags := flags
    lastTxData := payload
    lastTxRetries := 0
    waitingAck := hasFlag flags tcpFlagSyn || hasFlag flags tcpFlagFin || !payload.isEmpty }

def tcpSendAndTrack (t : Tcp) (i : Fin 32) (flags : UInt8) (payload : List UInt8) : Tcp × Bool :=
  let c := t.conns i
  let r := tcpSendSegment t c.remoteIp c.localPort c.remotePort c.sndNxt c.rcvNxt flags payload
  if !r.2 then (r.1, false)
  else
    let c := tcpTrackOutbound c t.net.tick c.sndNxt c.rcvNxt flags payload
    let sndNxt :=
      if hasFlag flags tcpFlagSyn || hasFlag flags tcpFlagFin then c.sndNxt + 1 else c.sndNxt
    (r.1.setConn i { c with sndNxt := sndNxt + UInt32.ofNat payload.length }, true)

def tcpRetransmitLast (t : Tcp) (i : Fin 32) : Tcp × Bool :=
  let c := t.conns i
  if !c.used ∨ c.listening ∨ !c.waitingAck then (t, false)
  else
    let maxRetries :=
      if c.state = .synSent ∨ c.state = .synRcvd then tcpRetxMax + 2 else tcpRetxMax
    if c.lastTxRetries ≥ maxRetries then
      (t.setConn i { c with used := false, state := .closed }, false)
    else
      let r := tcpSendSegment t c.remoteIp c.localPort c.remotePort c.lastTxSeq c.lastTxAck
        c.lastTxFlags c.lastTxData
      if !r.2 then (r.1, false)
      else
        (r.1.setConn i { c with lastTxTick := t.net.tick, lastTxRetries := c.lastTxRetries + 1 }, true)

def tcpSendAck (t : Tcp) (i : Fin 32) : Tcp :=
  let c := t.conns i
  (tcpSendSegment t c.remoteIp c.localPort c.remotePort c.sndNxt c.rcvNxt tcpFlagAck []).1

/-! ### Segments that arrive -/

def tcpQueueRx (c : TcpConn) (payload : List UInt8) : TcpConn × Bool :=
  if payload.length = 0 then (c, true)
  else if payload.length > tcpMaxPayload then (c, false)
  else if h : c.rxQueue.count < 16 then ({ c with rxQueue := c.rxQueue.push payload h }, true)
  else (c, false)

def tcpChecksumValid (srcIp dstIp : UInt32) (tcp : List UInt8) : Bool :=
  20 ≤ tcp.length ∧ (12 + tcp.length) % 65536 ≤ 1600 ∧
    internetChecksum (tcpPseudoHeader srcIp dstIp tcp.length ++ tcp) = 0

/-- A request at a listener takes an entry of its own. -/
def tcpHandleSyn (t : Tcp) (listener : Fin 32) (srcIp : UInt32) (srcPort dstPort : UInt16)
    (seq : UInt32) : Tcp :=
  match tcpAllocConn t with
  | (t, none) => t
  | (t, some child) =>
    let c := { t.conns child with
      listening := false
      parentListen := some listener
      accepted := false
      state := .synRcvd
      localPort := dstPort
      remotePort := srcPort
      remoteIp := srcIp
      rcvNxt := seq + 1
      sndUna := t.issSeed
      sndNxt := t.issSeed + 1 }
    let t := { t.setConn child c with issSeed := t.issSeed + 0x101 }
    let r := tcpSendSegment t c.remoteIp c.localPort c.remotePort c.sndUna c.rcvNxt
      (tcpFlagSyn ||| tcpFlagAck) []
    if !r.2 then r.1.setConn child { c with used := false }
    else
      r.1.setConn child { c with
        lastTxTick := t.net.tick
        lastTxSeq := c.sndUna
        lastTxAck := c.rcvNxt
        lastTxFlags := tcpFlagSyn ||| tcpFlagAck
        lastTxData := []
        lastTxRetries := 0
        waitingAck := true }

/-- The connection has been closed here. -/
def tcpHandleClosing (t : Tcp) (i : Fin 32) (seq ack : UInt32) (flags : UInt8) : Tcp :=
  let c := t.conns i
  let done := hasFlag flags tcpFlagAck && ack ≥ c.sndNxt
  if done then
    t.setConn i { c with sndUna := ack, waitingAck := false, state := .closed, used := false }
  else if hasFlag flags tcpFlagFin then
    -- what is tested behind the acknowledgement is `done` again
    tcpSendAck (t.setConn i { c with rcvNxt := if seq = c.rcvNxt then c.rcvNxt + 1 else c.rcvNxt }) i
  else t

def tcpHandleSynSent (t : Tcp) (i : Fin 32) (seq ack : UInt32) (flags : UInt8) : Tcp :=
  let c := t.conns i
  if hasFlag flags tcpFlagSyn ∧ hasFlag flags tcpFlagAck ∧ ack = c.sndNxt then
    tcpSendAck (t.setConn i
      { c with rcvNxt := seq + 1, sndUna := ack, state := .established, waitingAck := false }) i
  else t

def tcpHandleSynRcvd (t : Tcp) (i : Fin 32) (ack : UInt32) (flags : UInt8) : Tcp :=
  let c := t.conns i
  if hasFlag flags tcpFlagAck ∧ ack = c.sndNxt then
    t.setConn i { c with sndUna := ack, state := .established, waitingAck := false }
  else t

/-- What a segment acknowledges. -/
def tcpTakeAck (c : TcpConn) (ack : UInt32) (flags : UInt8) : TcpConn :=
  if hasFlag flags tcpFlagAck ∧ ack > c.sndUna then
    { c with sndUna := ack, waitingAck := if ack ≥ c.sndNxt then false else c.waitingAck }
  else c

/-- The payload is queued if it is the next one and there is room. -/
def tcpTakePayload (c : TcpConn) (seq : UInt32) (payload : List UInt8) : TcpConn :=
  if seq = c.rcvNxt then
    let r := tcpQueueRx c payload
    if r.2 then { r.1 with rcvNxt := r.1.rcvNxt + UInt32.ofNat payload.length } else r.1
  else c

def tcpTakeFin (t : Tcp) (i : Fin 32) (seq : UInt32) (flags : UInt8) : Tcp :=
  let c := t.conns i
  if hasFlag flags tcpFlagFin then
    tcpSendAck (t.setConn i { c with
      rcvNxt := if seq = c.rcvNxt then c.rcvNxt + 1 else c.rcvNxt
      state := .closeWait }) i
  else t

def tcpHandleEstablished (t : Tcp) (i : Fin 32) (seq ack : UInt32) (flags : UInt8)
    (payload : List UInt8) : Tcp :=
  let t := t.setConn i (tcpTakeAck (t.conns i) ack flags)
  if payload.length > 0 then
    let r := netFaultShouldApply t.net t.net.netFaultLossPercent
    let t := { t with net := r.1 }
    if r.2 then tcpSendAck t i
    else
      let t := tcpSendAck (t.setConn i (tcpTakePayload (t.conns i) seq payload)) i
      tcpTakeFin t i seq flags
  else tcpTakeFin t i seq flags

/-- A segment for an entry of the table. -/
def tcpHandleConn (t : Tcp) (i : Fin 32) (seq ack : UInt32) (flags : UInt8) (payload : List UInt8) :
    Tcp :=
  let c := t.conns i
  if hasFlag flags tcpFlagRst then t.setConn i { c with state := .closed, used := false }
  else match c.state with
    | .closing => tcpHandleClosing t i seq ack flags
    | .synSent => tcpHandleSynSent t i seq ack flags
    | .synRcvd => tcpHandleSynRcvd t i ack flags
    | .established | .closeWait => tcpHandleEstablished t i seq ack flags payload
    | .closed | .listen => t

def netHandleTcpSegment (t : Tcp) (srcIp dstIp : UInt32) (tcp : List UInt8) : Tcp :=
  if tcp.length < 20 then t
  else if !tcpChecksumValid srcIp dstIp tcp then t
  else
    let srcPort := UInt16.ofNat (readBe16 tcp 0)
    let dstPort := UInt16.ofNat (readBe16 tcp 2)
    let seq := readBe32 tcp 4
    let ack := readBe32 tcp 8
    let hdrLen := (tcp.getD 12 0 >>> 4).toNat * 4
    let flags := tcp.getD 13 0
    if hdrLen < 20 ∨ hdrLen > tcp.length then t
    else
      match tcpFindConn t srcIp srcPort dstPort with
      | none =>
        match tcpFindListener t dstPort with
        | none => t
        | some listener =>
          if hasFlag flags tcpFlagSyn ∧ !hasFlag flags tcpFlagAck then
            tcpHandleSyn t listener srcIp srcPort dstPort seq
          else t
      | some i => tcpHandleConn t i seq ack flags (tcp.drop hdrLen)

/-! ### Calls -/

def netTcpListen (t : Tcp) (port : UInt16) : Tcp × Option (Fin 32) :=
  if port = 0 ∨ (tcpFindListener t port).isSome then (t, none)
  else
    match tcpAllocConn t with
    | (t, none) => (t, none)
    | (t, some i) =>
      (t.setConn i { t.conns i with
        listening := true, state := .listen, localPort := port, accepted := true }, some i)

def netTcpUnlisten (t : Tcp) (port : UInt16) : Tcp :=
  match tcpFindListener t port with
  | none => t
  | some i => t.setConn i { t.conns i with used := false }

/-- The first connection of a listener that is established and not yet accepted. -/
def tcpPending (t : Tcp) (listener : Fin 32) : Option (Fin 32) :=
  (List.finRange 32).find? fun i =>
    let c := t.conns i
    c.used && !c.listening && c.parentListen == some listener && c.state == .established && !c.accepted

def netTcpAcceptReady (t : Tcp) (listenPort : UInt16) : Bool :=
  match tcpFindListener t listenPort with
  | none => false
  | some listener => (tcpPending t listener).isSome

def netTcpConnect (t : Tcp) (dstIp : UInt32) (dstPort srcPort : UInt16) : Tcp × Option (Fin 32) :=
  if dstIp = 0 ∨ dstPort = 0 ∨ srcPort = 0 then (t, none)
  else
    match tcpAllocConn t with
    | (t, none) => (t, none)
    | (t, some i) =>
      let c := { t.conns i with
        listening := false
        parentListen := none
        accepted := true
        state := .synSent
        localPort := srcPort
        remotePort := dstPort
        remoteIp := dstIp
        sndUna := t.issSeed
        sndNxt := t.issSeed + 1
        rcvNxt := 0 }
      let t := { t.setConn i c with issSeed := t.issSeed + 0x101 }
      let r := tcpSendSegment t dstIp srcPort dstPort c.sndUna 0 tcpFlagSyn []
      if !r.2 then (r.1.setConn i { c with used := false }, none)
      else
        (r.1.setConn i { c with
          lastTxTick := t.net.tick
          lastTxSeq := c.sndUna
          lastTxAck := 0
          lastTxData := []
          lastTxFlags := tcpFlagSyn
          lastTxRetries := 0
          waitingAck := true }, some i)

/-- The connection and its peer. -/
def netTcpAccept (t : Tcp) (listenPort : UInt16) : Tcp × Option (Fin 32 × UInt32 × UInt16) :=
  match tcpFindListener t listenPort with
  | none => (t, none)
  | some listener =>
    match tcpPending t listener with
    | none => (t, none)
    | some i =>
      let c := { t.conns i with accepted := true }
      (t.setConn i c, some (i, c.remoteIp, c.remotePort))

def netTcpIsEstablished (t : Tcp) (i : Fin 32) : Bool :=
  let c := t.conns i
  c.used && !c.listening && c.state == .established

def netTcpCanRecv (t : Tcp) (i : Fin 32) : Bool :=
  let c := t.conns i
  c.used && !c.listening && 0 < c.rxQueue.count

def netTcpCanSend (t : Tcp) (i : Fin 32) : Bool :=
  let c := t.conns i
  c.used && !c.listening && c.state == .established

/-- The number of bytes that were sent. -/
def netTcpSend (t : Tcp) (i : Fin 32) (payload : List UInt8) : Tcp × Nat :=
  if payload.length = 0 then (t, 0)
  else
    let c := t.conns i
    if !c.used ∨ c.listening ∨ c.state ≠ .established then (t, 0)
    else
      let payload := payload.take tcpMaxPayload
      let r := tcpSendAndTrack t i (tcpFlagAck ||| tcpFlagPsh) payload
      if !r.2 then (r.1, 0) else (r.1, payload.length)

/-- The oldest segment, or as much of it as fits. -/
def netTcpRecv (t : Tcp) (i : Fin 32) (maxLen : Nat) : Tcp × List UInt8 :=
  if maxLen = 0 then (t, [])
  else
    let c := t.conns i
    if !c.used ∨ c.listening then (t, [])
    else if h : 0 < c.rxQueue.count then
      let seg := c.rxQueue.slots c.rxQueue.head
      (t.setConn i { c with rxQueue := c.rxQueue.pop seg h }, seg.take maxLen)
    else (t, [])

def netTcpClose (t : Tcp) (i : Fin 32) : Tcp :=
  let c := t.conns i
  if !c.used then t
  else if c.listening then t.setConn i { c with used := false, state := .closed }
  else
    let r := if c.state = .established ∨ c.state = .closeWait then
        tcpSendAndTrack t i (tcpFlagFin ||| tcpFlagAck) []
      else (t, false)
    if r.2 then r.1.setConn i { r.1.conns i with state := .closing }
    else r.1.setConn i { r.1.conns i with used := false, state := .closed }

def netTcpPoll (t : Tcp) : Tcp :=
  (List.finRange 32).foldl (fun t i =>
    let c := t.conns i
    if !c.used ∨ c.listening ∨ !c.waitingAck then t
    else if (t.net.tick - c.lastTxTick).toNat ≥ tcpRetxTicks <<< min c.lastTxRetries 4 then
      (tcpRetransmitLast t i).1
    else t) t

end NeuroSpark
