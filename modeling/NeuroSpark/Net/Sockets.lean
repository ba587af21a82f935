import NeuroSpark.Net.Tcp

/-!
# Sockets

Each of the eight tasks has a table of 64 sockets. A socket holds the index of its connection in the
table of TCP. A call that waits before it does anything is a step at the time at which the wait
ends: it is done if the socket is ready then, and gives up if it is not. `SYS_CONNECT` sends its SYN
before it waits, so the task stays in the loop of its wait, from which it wakes at each tick.
-/

namespace NeuroSpark

open Network

def nsSocketFdBase : Int := 1024
def nsAfInet : Int := 2
def nsSockStream : Int := 1
def nsSockDgram : Int := 2
def nsONonblock : UInt32 := 0x800
def nsOk : Int := 0
def nsErrWouldBlock : Int := -3
def nsErrNoSpace : Int := -3
def nsErrInvalidArg : Int := -22

/-- `netConnId` is the index of a connection, or -1. -/
structure NsSocketEntry where
  used : Bool
  type : Int
  protocol : Int
  flags : UInt32
  bound : Bool
  localPort : UInt16
  peerIp : UInt32
  peerPort : UInt16
  listening : Bool
  netConnId : Option (Fin 32)
  rcvTimeoutTicks : UInt32
  sndTimeoutTicks : UInt32
  reuseAddr : Bool
  keepalive : Bool
  shutRd : Bool
  shutWr : Bool

/-- An entry that is not used. -/
def NsSocketEntry.closed : NsSocketEntry where
  used := false
  type := 0
  protocol := 0
  flags := 0
  bound := false
  localPort := 0
  peerIp := 0
  peerPort := 0
  listening := false
  netConnId := none
  rcvTimeoutTicks := 0xFFFFFFFF
  sndTimeoutTicks := 0xFFFFFFFF
  reuseAddr := false
  keepalive := false
  shutRd := false
  shutWr := false

/-- The wait of `SYS_CONNECT` for its connection. Without a deadline it has no end. -/
structure Connecting where
  conn : Fin 32
  deadline : Option UInt32

/-- The network stack with `task_sockets[MAX_TASKS][NS_SOCKET_MAX_PER_TASK]`, the ticks of the
scheduler and the tasks that wait for a connection. -/
structure Sockets where
  tcp : Tcp
  taskSockets : Fin 8 → Fin 64 → NsSocketEntry
  schedulerTicks : UInt32
  connecting : Fin 8 → Option Connecting

/-- What a call returns, and the bytes that it puts into the caller's buffer. -/
structure SockAnswer where
  rc : Int
  data : List UInt8
  deriving DecidableEq

def netUdpUnbind (s : Net) (port : UInt16) : Net :=
  match udpFindBinding s port with
  | none => s
  | some i =>
    let queue := (s.udpBindings i).queue
    s.setBinding i ⟨false, 0, 0, queue.reset⟩

def netUdpHasData (s : Net) (port : UInt16) : Bool :=
  match udpFindBinding s port with
  | none => false
  | some i => 0 < (s.udpBindings i).queue.count

namespace Sockets

def setEntry (s : Sockets) (task : Fin 8) (slot : Fin 64) (e : NsSocketEntry) : Sockets :=
  { s with taskSockets :=
      Function.update s.taskSockets task (Function.update (s.taskSockets task) slot e) }

def withTcp (s : Sockets) (t : Tcp) : Sockets := { s with tcp := t }

def setConnecting (s : Sockets) (task : Fin 8) (w : Option Connecting) : Sockets :=
  { s with connecting := Function.update s.connecting task w }

def fail (s : Sockets) (rc : Int) : Sockets × SockAnswer := (s, ⟨rc, []⟩)

def fdToSlot (fd : Int) : Option (Fin 64) :=
  if h : 0 ≤ fd - nsSocketFdBase ∧ (fd - nsSocketFdBase).toNat < 64 then
    some ⟨(fd - nsSocketFdBase).toNat, h.2⟩
  else none

/-- The slot of a descriptor that is a socket. -/
def entryForFd (s : Sockets) (task : Fin 8) (fd : Int) : Option (Fin 64) :=
  (fdToSlot fd).filter fun slot => (s.taskSockets task slot).used

def freeSlot (s : Sockets) (task : Fin 8) : Option (Fin 64) :=
  (List.finRange 64).find? fun slot => !(s.taskSockets task slot).used

/-- The slot and its descriptor. -/
def allocFd (s : Sockets) (task : Fin 8) (type protocol : Int) : Sockets × Option (Fin 64) :=
  match s.freeSlot task with
  | none => (s, none)
  | some slot =>
    (s.setEntry task slot
      { NsSocketEntry.closed with used := true, type := type, protocol := protocol }, some slot)

def fdOf (slot : Fin 64) : Int := nsSocketFdBase + slot.val

def closeEntry (s : Sockets) (task : Fin 8) (slot : Fin 64) : Sockets :=
  let e := s.taskSockets task slot
  if !e.used then s
  else
    let t :=
      if e.type = nsSockDgram ∧ e.bound then
        { s.tcp with net := netUdpUnbind s.tcp.net e.localPort }
      else s.tcp
    let t :=
      if e.type = nsSockStream then
        if e.listening && e.bound then netTcpUnlisten t e.localPort
        else match e.netConnId with
          | none => t
          | some i => netTcpClose t i
      else t
    (s.withTcp t).setEntry task slot NsSocketEntry.closed

def closeAllForTask (s : Sockets) (task : Fin 8) : Sockets :=
  (List.finRange 64).foldl (fun s slot => s.closeEntry task slot) s

def isNonblocking (e : NsSocketEntry) : Bool := e.flags &&& nsONonblock ≠ 0

def readyForRead (t : Tcp) (e : NsSocketEntry) : Bool :=
  if !e.used then false
  else if e.shutRd then false
  else if e.type = nsSockDgram then e.bound && netUdpHasData t.net e.localPort
  else if e.type = nsSockStream then
    if e.listening then netTcpAcceptReady t e.localPort
    else match e.netConnId with
      | none => false
      | some i => netTcpCanRecv t i
  else false

def readyForWrite (t : Tcp) (e : NsSocketEntry) : Bool :=
  if !e.used then false
  else if e.shutWr then false
  else if e.type = nsSockDgram then e.peerIp ≠ 0 && e.peerPort ≠ 0
  else if e.type = nsSockStream then
    match e.netConnId with
    | none => false
    | some i => netTcpCanSend t i
  else false

def sysSocket (s : Sockets) (task : Fin 8) (domain type protocol : Int) : Sockets × SockAnswer :=
  if domain ≠ nsAfInet ∨ (type ≠ nsSockStream ∧ type ≠ nsSockDgram) then s.fail nsErrInvalidArg
  else
    match s.allocFd task type protocol with
    | (s, none) => s.fail nsErrNoSpace
    | (s, some slot) => (s, ⟨fdOf slot, []⟩)

def sysBind (s : Sockets) (task : Fin 8) (fd family : Int) (port : UInt16) : Sockets × SockAnswer :=
  match s.entryForFd task fd with
  | none => s.fail nsErrInvalidArg
  | some slot =>
    let e := s.taskSockets task slot
    if family ≠ nsAfInet ∨ port = 0 then s.fail nsErrInvalidArg
    else if e.type = nsSockDgram then
      let r := netUdpBind s.tcp.net port
      let s := s.withTcp { s.tcp with net := r.1 }
      if r.2 then (s.setEntry task slot { e with bound := true, localPort := port }, ⟨nsOk, []⟩)
      else s.fail nsErrNoSpace
    else (s.setEntry task slot { e with bound := true, localPort := port }, ⟨nsOk, []⟩)

def sysListen (s : Sockets) (task : Fin 8) (fd : Int) : Sockets × SockAnswer :=
  match s.entryForFd task fd with
  | none => s.fail nsErrInvalidArg
  | some slot =>
    let e := s.taskSockets task slot
    if e.type ≠ nsSockStream ∨ !e.bound then s.fail nsErrInvalidArg
    else
      match netTcpListen s.tcp e.localPort with
      | (t, none) => (s.withTcp t).fail nsErrNoSpace
      | (t, some i) =>
        ((s.withTcp t).setEntry task slot { e with listening := true, netConnId := some i },
          ⟨nsOk, []⟩)

def sysAccept (s : Sockets) (task : Fin 8) (fd : Int) : Sockets × SockAnswer :=
  match s.entryForFd task fd with
  | none => s.fail nsErrInvalidArg
  | some slot =>
    let e := s.taskSockets task slot
    if e.type ≠ nsSockStream ∨ !e.listening then s.fail nsErrInvalidArg
    else if !readyForRead s.tcp e then s.fail nsErrWouldBlock
    else
      match netTcpAccept s.tcp e.localPort with
      | (t, none) => (s.withTcp t).fail nsErrWouldBlock
      | (t, some (i, peerIp, peerPort)) =>
        match (s.withTcp t).allocFd task nsSockStream 0 with
        | (s, none) => (s.withTcp (netTcpClose s.tcp i)).fail nsErrNoSpace
        | (s, some child) =>
          (s.setEntry task child { s.taskSockets task child with
            bound := true
            localPort := e.localPort
            peerIp := peerIp
            peerPort := peerPort
            listening := false
            netConnId := some i
            flags := e.flags
            rcvTimeoutTicks := e.rcvTimeoutTicks
            sndTimeoutTicks := e.sndTimeoutTicks
            reuseAddr := e.reuseAddr
            keepalive := e.keepalive
            shutRd := false
            shutWr := false }, ⟨fdOf child, []⟩)

/-- One round of the wait for a connection: it ends when the connection is established or the
deadline is over, and else the task sleeps for a tick. -/
def connectRound (s : Sockets) (task : Fin 8) (w : Connecting) : Sockets × Option SockAnswer :=
  if netTcpIsEstablished s.tcp w.conn then (s.setConnecting task none, some ⟨nsOk, []⟩)
  else if w.deadline.any fun deadline => deadline ≤ s.schedulerTicks then
    (s.setConnecting task none, some ⟨nsErrWouldBlock, []⟩)
  else (s.setConnecting task (some w), none)

/-- A task that wakes in its wait for a connection asks once more. -/
def wake (s : Sockets) (task : Fin 8) : Sockets × Option SockAnswer :=
  match s.connecting task with
  | none => (s, none)
  | some w => s.connectRound task w

/-- A stream socket connects and, unless it is not to block, waits for the connection. -/
def sysConnect (s : Sockets) (task : Fin 8) (fd family : Int) (ip : UInt32) (port : UInt16) :
    Sockets × Option SockAnswer :=
  match s.entryForFd task fd with
  | none => (s, some ⟨nsErrInvalidArg, []⟩)
  | some slot =>
    let e := s.taskSockets task slot
    if family ≠ nsAfInet ∨ port = 0 ∨ ip = 0 then (s, some ⟨nsErrInvalidArg, []⟩)
    else if e.type = nsSockDgram then
      (s.setEntry task slot { e with peerIp := ip, peerPort := port }, some ⟨nsOk, []⟩)
    else
      let e :=
        if e.bound then e
        else { e with bound := true, localPort := UInt16.ofNat (40000 + task.val) }
      match netTcpConnect s.tcp ip port e.localPort with
      | (t, none) => ((s.withTcp t).setEntry task slot e, some ⟨nsErrWouldBlock, []⟩)
      | (t, some i) =>
        let s := (s.withTcp t).setEntry task slot
          { e with peerIp := ip, peerPort := port, netConnId := some i, listening := false }
        if isNonblocking e then (s, some ⟨nsErrWouldBlock, []⟩)
        else
          s.connectRound task
            ⟨i, if e.sndTimeoutTicks = 0xFFFFFFFF then none
              else some (s.schedulerTicks + e.sndTimeoutTicks)⟩

/-- The bytes that a 16-bit length covers. -/
def word16Prefix (data : List UInt8) : List UInt8 := data.take (data.length % 65536)

/-- A stream socket sends when it is ready. -/
def streamSend (s : Sockets) (e : NsSocketEntry) (i : Fin 32) (data : List UInt8) :
    Sockets × SockAnswer :=
  if !readyForWrite s.tcp e then s.fail nsErrWouldBlock
  else
    let r := netTcpSend s.tcp i (word16Prefix data)
    (s.withTcp r.1, ⟨r.2, []⟩)

def dgramSend (s : Sockets) (e : NsSocketEntry) (data : List UInt8) : Sockets × Bool :=
  let r := netSendUdp s.tcp.net e.peerIp (if e.bound then e.localPort else 40000) e.peerPort
    (word16Prefix data)
  (s.withTcp { s.tcp with net := r.1 }, r.2)

def sysSendto (s : Sockets) (task : Fin 8) (fd : Int) (data : List UInt8) : Sockets × SockAnswer :=
  match s.entryForFd task fd with
  | none => s.fail nsErrInvalidArg
  | some slot =>
    let e := s.taskSockets task slot
    if data.length = 0 ∨ e.shutWr then s.fail nsErrInvalidArg
    else if e.type = nsSockDgram then
      -- without a peer nothing is sent and the length is returned
      if e.peerIp ≠ 0 ∧ e.peerPort ≠ 0 then
        let r := s.dgramSend e data
        (r.1, ⟨if r.2 then data.length else nsErrWouldBlock, []⟩)
      else (s, ⟨data.length, []⟩)
    else match e.netConnId with
      | none => s.fail nsErrInvalidArg
      | some i => s.streamSend e i data

/-- The part of `SYS_WRITE` that is about sockets. What the file system answers to an empty buffer
is left out. -/
def sysWrite (s : Sockets) (task : Fin 8) (fd : Int) (data : List UInt8) : Sockets × SockAnswer :=
  match s.entryForFd task fd with
  | none => s.fail nsErrInvalidArg
  | some slot =>
    let e := s.taskSockets task slot
    if data.length = 0 ∨ e.shutWr then s.fail nsErrInvalidArg
    else if e.type = nsSockDgram then
      if e.peerIp ≠ 0 ∧ e.peerPort ≠ 0 then
        let r := s.dgramSend e data
        (r.1, ⟨if r.2 then data.length else nsErrWouldBlock, []⟩)
      else s.fail (-4)
    else match e.netConnId with
      | none => s.fail (-4)
      | some i => s.streamSend e i data

/-- Nothing received is an error. -/
def received (s : Sockets) (data : List UInt8) : Sockets × SockAnswer :=
  (s, ⟨if data.length = 0 then nsErrWouldBlock else data.length, data⟩)

def sysRecvfrom (s : Sockets) (task : Fin 8) (fd : Int) (len : Nat) : Sockets × SockAnswer :=
  match s.entryForFd task fd with
  | none => s.fail nsErrInvalidArg
  | some slot =>
    let e := s.taskSockets task slot
    if len = 0 ∨ e.shutRd then s.fail nsErrInvalidArg
    else if e.type = nsSockDgram then
      if !e.bound then s.fail nsErrInvalidArg
      else if !readyForRead s.tcp e then s.fail nsErrWouldBlock
      else
        match netUdpRecv s.tcp.net e.localPort (len % 65536) with
        | (net, none) => (s.withTcp { s.tcp with net := net }).received []
        | (net, some pkt) =>
          -- the first datagram makes its sender the peer
          let s := s.withTcp { s.tcp with net := net }
          let s :=
            if 0 < pkt.data.length ∧ (e.peerIp = 0 ∨ e.peerPort = 0) then
              s.setEntry task slot { e with peerIp := pkt.srcIp, peerPort := pkt.srcPort }
            else s
          s.received pkt.data
    else match e.netConnId with
      | none => s.fail nsErrInvalidArg
      | some i =>
        if !readyForRead s.tcp e then s.fail nsErrWouldBlock
        else
          let r := netTcpRecv s.tcp i (len % 65536)
          (s.withTcp r.1).received r.2

/-- The part of `SYS_READ` that is about sockets. -/
def sysRead (s : Sockets) (task : Fin 8) (fd : Int) (size : Nat) : Sockets × SockAnswer :=
  match s.entryForFd task fd with
  | none => s.fail nsErrInvalidArg
  | some slot =>
    let e := s.taskSockets task slot
    if e.shutRd then s.fail nsErrInvalidArg
    else if !readyForRead s.tcp e then s.fail nsErrWouldBlock
    else if e.type = nsSockDgram then
      if !e.bound then s.fail nsErrInvalidArg
      else
        let r := netUdpRecv s.tcp.net e.localPort (size % 65536)
        (s.withTcp { s.tcp with net := r.1 }).received ((r.2.map UdpPacket.data).getD [])
    else match e.netConnId with
      | none => s.fail nsErrInvalidArg
      | some i =>
        let r := netTcpRecv s.tcp i (size % 65536)
        (s.withTcp r.1).received r.2

def sysSetsockopt (s : Sockets) (task : Fin 8) (fd opt : Int) (val : UInt32) :
    Sockets × SockAnswer :=
  match s.entryForFd task fd with
  | none => s.fail nsErrInvalidArg
  | some slot =>
    let e := s.taskSockets task slot
    let set e := (s.setEntry task slot e, ⟨nsOk, []⟩)
    if opt = 2 then set { e with reuseAddr := val ≠ 0 }
    else if opt = 5 then set { e with keepalive := val ≠ 0 }
    else if opt = 3 then set { e with rcvTimeoutTicks := val }
    else if opt = 4 then set { e with sndTimeoutTicks := val }
    else s.fail nsErrInvalidArg

/-- `SYS_FCNTL` on a socket, with `VFS_F_GETFL` and `VFS_F_SETFL`. -/
def sysFcntl (s : Sockets) (task : Fin 8) (fd cmd : Int) (arg : UInt32) : Sockets × SockAnswer :=
  match s.entryForFd task fd with
  | none => s.fail nsErrInvalidArg
  | some slot =>
    let e := s.taskSockets task slot
    if cmd = 1 then (s, ⟨e.flags.toNat, []⟩)
    else if cmd = 2 then (s.setEntry task slot { e with flags := arg }, ⟨nsOk, []⟩)
    else s.fail nsErrInvalidArg

def sysShutdown (s : Sockets) (task : Fin 8) (fd how : Int) : Sockets × SockAnswer :=
  match s.entryForFd task fd with
  | none => s.fail nsErrInvalidArg
  | some slot =>
    let e := s.taskSockets task slot
    if how ≠ 0 ∧ how ≠ 1 ∧ how ≠ 2 then s.fail nsErrInvalidArg
    else
      let e' := { e with
        shutRd := e.shutRd || how == 0 || how == 2
        shutWr := e.shutWr || how == 1 || how == 2 }
      let s := s.setEntry task slot e'
      if (how = 1 ∨ how = 2) ∧ e.type = nsSockStream then
        match e.netConnId with
        | none => (s, ⟨nsOk, []⟩)
        | some i => (s.withTcp (netTcpClose s.tcp i), ⟨nsOk, []⟩)
      else (s, ⟨nsOk, []⟩)

/-- The part of `SYS_CLOSE` that is about sockets. -/
def sysClose (s : Sockets) (task : Fin 8) (fd : Int) : Sockets × SockAnswer :=
  match s.entryForFd task fd with
  | none => s.fail nsErrInvalidArg
  | some slot => (s.closeEntry task slot, ⟨nsOk, []⟩)

end Sockets

/-- The calls of a task, after its pointers have been checked. -/
inductive SocketCall where
  | socket (domain type protocol : Int)
  | bind (fd family : Int) (port : UInt16)
  | listen (fd : Int)
  | accept (fd : Int)
  | connect (fd family : Int) (ip : UInt32) (port : UInt16)
  | sendto (fd : Int) (data : List UInt8)
  | write (fd : Int) (data : List UInt8)
  | recvfrom (fd : Int) (len : Nat)
  | read (fd : Int) (size : Nat)
  | setsockopt (fd opt : Int) (val : UInt32)
  | fcntl (fd cmd : Int) (arg : UInt32)
  | shutdown (fd how : Int)
  | close (fd : Int)
  | exit

inductive SocketOp where
  | call (task : Fin 8) (c : SocketCall)
  | frame (bytes : List UInt8)
  | poll
  | clock (tick : UInt32)
  | schedulerTick
  | wake (task : Fin 8)

namespace Sockets

/-- A call that has its answer when it is made. -/
def answered (r : Sockets × SockAnswer) : Sockets × Option SockAnswer := (r.1, some r.2)

/-- A call of a task. `exit` is what `SYS_EXIT` does to its sockets, and what `fork` does to those of
a task that was killed when it gives the task's slot to another. -/
def call (s : Sockets) (task : Fin 8) : SocketCall → Sockets × Option SockAnswer
  | .socket domain type protocol => answered (s.sysSocket task domain type protocol)
  | .bind fd family port => answered (s.sysBind task fd family port)
  | .listen fd => answered (s.sysListen task fd)
  | .accept fd => answered (s.sysAccept task fd)
  | .connect fd family ip port => s.sysConnect task fd family ip port
  | .sendto fd data => answered (s.sysSendto task fd data)
  | .write fd data => answered (s.sysWrite task fd data)
  | .recvfrom fd len => answered (s.sysRecvfrom task fd len)
  | .read fd size => answered (s.sysRead task fd size)
  | .setsockopt fd opt val => answered (s.sysSetsockopt task fd opt val)
  | .fcntl fd cmd arg => answered (s.sysFcntl task fd cmd arg)
  | .shutdown fd how => answered (s.sysShutdown task fd how)
  | .close fd => answered (s.sysClose task fd)
  | .exit => ((s.closeAllForTask task).setConnecting task none, some ⟨nsOk, []⟩)

/-- A task that waits for a connection is inside that call, and makes no other. -/
def isWaiting (s : Sockets) (task : Fin 8) : SocketCall → Bool
  | .exit => false
  | _ => (s.connecting task).isSome

/-- The segment of TCP that a frame brings: source, destination and bytes. -/
def segmentOf (s : Net) (frame : List UInt8) : Option Ipv4Datagram :=
  if frame.length < 14 ∨ readBe16 frame 12 ≠ ethTypeIpv4 then none
  else (netHandleIpv4Frame s frame).2.filter fun d =>
    d.protocol = ipProtoTcp ∧ 20 ≤ d.payload.length

/-- `net_handle_eth_frame` with the handler of TCP. -/
def handleFrame (t : Tcp) (frame : List UInt8) : Tcp :=
  let t' := { t with net := netHandleEthFrame t.net frame }
  match segmentOf t.net frame with
  | none => t'
  | some d => netHandleTcpSegment t' d.srcIp d.dstIp d.payload

/-- A step, with the answer of the call that it ends. -/
def step (s : Sockets) : SocketOp → Sockets × Option SockAnswer
  | .call task c => if s.isWaiting task c then (s, none) else s.call task c
  | .frame bytes => (s.withTcp (handleFrame s.tcp bytes), none)
  | .poll => (s.withTcp (netTcpPoll s.tcp), none)
  | .clock tick => (s.withTcp { s.tcp with net := { s.tcp.net with tick := tick } }, none)
  | .schedulerTick => ({ s with schedulerTicks := s.schedulerTicks + 1 }, none)
  | .wake task => s.wake task

end Sockets

end NeuroSpark
