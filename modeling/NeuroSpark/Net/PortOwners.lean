import NeuroSpark.Net.Entries
import NeuroSpark.Net.Peers
import NeuroSpark.Net.Ports

/-!
# Datagram sockets and their ports

The network layer knows ports, not sockets: two sockets may be bound to one port, and the first of
them that is closed unbinds it for both. A run in which no port is taken from a socket like this
delivers to each datagram socket what its port accepted, in order.
-/

namespace NeuroSpark

/-- What tasks can do with datagram sockets, and the arrival of a datagram. -/
inductive PortOp where
  | socket (task : Fin 8) (domain type protocol : Int)
  | bind (task : Fin 8) (fd family : Int) (port : UInt16)
  | recvfrom (task : Fin 8) (fd : Int) (len : Nat)
  | read (task : Fin 8) (fd : Int) (size : Nat)
  | close (task : Fin 8) (fd : Int)
  | exit (task : Fin 8)
  | arrive (port : UInt16) (packet : UdpPacket)

/-- The state of the network after a step on UDP. -/
def Sockets.withNet (s : Sockets) (net : Net) : Sockets := s.withTcp { s.tcp with net := net }

def portStep (s : Sockets) : PortOp → Sockets × SockAnswer
  | .socket task domain type protocol => s.sysSocket task domain type protocol
  | .bind task fd family port => s.sysBind task fd family port
  | .recvfrom task fd len => s.sysRecvfrom task fd len
  | .read task fd size => s.sysRead task fd size
  | .close task fd => s.sysClose task fd
  | .exit task => (s.closeAllForTask task, ⟨nsOk, []⟩)
  | .arrive port packet => (s.withNet (udpEnqueuePacket s.tcp.net port packet).1, ⟨nsOk, []⟩)

/-- A datagram socket that is bound to a port. -/
structure NsSocketEntry.BoundDgram (e : NsSocketEntry) (port : UInt16) : Prop where
  used : e.used = true
  type : e.type = nsSockDgram
  bound : e.bound = true
  localPort : e.localPort = port

/-- The two entries are bound alike. -/
structure NsSocketEntry.SameBound (e e' : NsSocketEntry) : Prop where
  used : e'.used = e.used
  type : e'.type = e.type
  bound : e'.bound = e.bound
  localPort : e'.localPort = e.localPort

/-- A receiving call looks into the queue. -/
structure NsSocketEntry.Takes (e : NsSocketEntry) (len : Nat) : Prop where
  type : e.type = nsSockDgram
  bound : e.bound = true
  shutRd : e.shutRd = false
  len : len % 65536 ≠ 0

instance (e : NsSocketEntry) (len : Nat) : Decidable (e.Takes len) :=
  decidable_of_iff (e.type = nsSockDgram ∧ e.bound = true ∧ e.shutRd = false ∧ len % 65536 ≠ 0)
    ⟨fun h => ⟨h.1, h.2.1, h.2.2.1, h.2.2.2⟩, fun h => ⟨h.type, h.bound, h.shutRd, h.len⟩⟩

namespace Sockets

/-- The socket is bound to a port, and so is the network layer. -/
structure BoundTo (s : Sockets) (task : Fin 8) (slot : Fin 64) (port : UInt16) : Prop where
  entry : (s.taskSockets task slot).BoundDgram port
  binding : (udpBinding s.tcp.net port).isSome = true

/-- Another open socket that is bound to the port. -/
def Shares (s : Sockets) (task : Fin 8) (slot : Fin 64) (port : UInt16) (task' : Fin 8)
    (slot' : Fin 64) : Prop :=
  ¬ (task = task' ∧ slot = slot') ∧ (s.taskSockets task' slot').BoundDgram port

/-- A receiving call on another socket takes a datagram from the port. -/
def TakesFrom (s : Sockets) (task : Fin 8) (slot : Fin 64) (port : UInt16) (task' : Fin 8)
    (fd : Int) (len : Nat) : Prop :=
  ∃ slot', s.entryForFd task' fd = some slot' ∧ s.Shares task slot port task' slot' ∧
    (s.taskSockets task' slot').Takes len ∧ udpQueued s.tcp.net port ≠ []

/-- The step takes the port, or a datagram of it, from the socket: another socket that is bound to
the port is closed or is given a datagram, or the socket itself is bound to another port. -/
def Disturbs (s : Sockets) (task : Fin 8) (slot : Fin 64) (port : UInt16) : PortOp → Prop
  | .bind task' fd family q => task' = task ∧ s.entryForFd task' fd = some slot ∧
      family = nsAfInet ∧ q ≠ 0 ∧ (netUdpBind s.tcp.net q).2 = true ∧ q ≠ port
  | .recvfrom task' fd len | .read task' fd len => s.TakesFrom task slot port task' fd len
  | .close task' fd =>
      ∃ slot', s.entryForFd task' fd = some slot' ∧ s.Shares task slot port task' slot'
  | .exit task' => task' ≠ task ∧ ∃ slot', (s.taskSockets task' slot').BoundDgram port
  | .socket .. => False
  | .arrive .. => False

/-- The step closes a socket. -/
def Closes (s : Sockets) (task : Fin 8) (slot : Fin 64) : PortOp → Prop
  | .close task' fd => task' = task ∧ s.entryForFd task' fd = some slot
  | .exit task' => task' = task
  | _ => False

/-- The step leaves the socket open, and its port to it. -/
def Undisturbed (task : Fin 8) (slot : Fin 64) (port : UInt16) (s : Sockets) (op : PortOp) : Prop :=
  ¬ s.Closes task slot op ∧ ¬ s.Disturbs task slot port op

/-- The datagrams that a port accepts. -/
def portAccepted (port : UInt16) (s : Sockets) : PortOp → List UdpPacket
  | .arrive q packet =>
    if q = port ∧ (udpEnqueuePacket s.tcp.net q packet).2 then [packet] else []
  | _ => []

/-- The datagram that a receiving call takes for a socket, with the size of the buffer. -/
def takenBy (s : Sockets) (task : Fin 8) (slot : Fin 64) (task' : Fin 8) (fd : Int) (len : Nat) :
    List (Nat × UdpPacket) :=
  if task' = task ∧ s.entryForFd task' fd = some slot ∧ (s.taskSockets task slot).Takes len then
    ((udpQueued s.tcp.net (s.taskSockets task slot).localPort).head?.map (len % 65536, ·)).toList
  else []

/-- The datagrams that a socket is given. -/
def portDelivered (task : Fin 8) (slot : Fin 64) (s : Sockets) : PortOp → List (Nat × UdpPacket)
  | .recvfrom task' fd len => s.takenBy task slot task' fd len
  | .read task' fd size => s.takenBy task slot task' fd size
  | _ => []

/-- The bytes that the calls for these datagrams return. -/
def portAnswers (task : Fin 8) (slot : Fin 64) (s : Sockets) (op : PortOp) : List (List UInt8) :=
  if portDelivered task slot s op = [] then [] else [(portStep s op).2.data]

end Sockets

section

variable {t : Tcp} {i : Fin 32}

lemma tcpSendAndTrack_bindings (t : Tcp) (i : Fin 32) (flags : UInt8) (payload : List UInt8) :
    (tcpSendAndTrack t i flags payload).1.net.udpBindings = t.net.udpBindings := by
  unfold tcpSendAndTrack
  dsimp only
  obtain ⟨frames, hsent⟩ := tcpSendSegment_net t (t.conns i).remoteIp (t.conns i).localPort
    (t.conns i).remotePort (t.conns i).sndNxt (t.conns i).rcvNxt flags payload
  rw [hsent]
  split_ifs <;> rfl

lemma netTcpClose_bindings (t : Tcp) (i : Fin 32) :
    (netTcpClose t i).net.udpBindings = t.net.udpBindings := by
  unfold netTcpClose
  dsimp only
  split_ifs
  all_goals first
    | rfl
    | exact tcpSendAndTrack_bindings ..

lemma netTcpUnlisten_bindings (t : Tcp) (port : UInt16) :
    (netTcpUnlisten t port).net.udpBindings = t.net.udpBindings := by
  unfold netTcpUnlisten
  split <;> rfl

lemma netTcpRecv_net (t : Tcp) (i : Fin 32) (maxLen : Nat) :
    (netTcpRecv t i maxLen).1.net = t.net := by
  unfold netTcpRecv
  dsimp only
  split_ifs <;> rfl

lemma udpBinding_congr {s s' : Net} (h : s'.udpBindings = s.udpBindings) (port : UInt16) :
    udpBinding s' port = udpBinding s port := by
  unfold udpBinding udpFindBinding
  rw [h]

end

lemma netUdpRecv_of_not_hasData {s : Net} {port : UInt16} (h : netUdpHasData s port = false)
    (maxLen : Nat) : netUdpRecv s port maxLen = (s, none) := by
  unfold netUdpHasData at h
  unfold netUdpRecv
  cases hi : udpFindBinding s port with
  | none => rfl
  | some i =>
    rw [hi] at h
    have hcount : ¬ 0 < (s.udpBindings i).queue.count := by simpa using h
    dsimp only
    split_ifs <;> rfl

lemma NsSocketEntry.SameBound.refl (e : NsSocketEntry) : e.SameBound e := ⟨rfl, rfl, rfl, rfl⟩

lemma NsSocketEntry.SameBound.boundDgram {e e' : NsSocketEntry} (h : e.SameBound e') {port : UInt16}
    (he : e.BoundDgram port) : e'.BoundDgram port :=
  ⟨h.used.trans he.used, h.type.trans he.type, h.bound.trans he.bound,
    h.localPort.trans he.localPort⟩

namespace Sockets

variable {s : Sockets} {task task' : Fin 8} {slot slot' : Fin 64} {port : UInt16} {fd : Int}
  {len : Nat} {e : NsSocketEntry} {r : Sockets × SockAnswer}

/-! ### Receiving -/

lemma setEntry_sameBound (h : (s.taskSockets task slot).SameBound e) (t : Tcp) :
    (s.taskSockets task' slot').SameBound
      (((s.withTcp t).setEntry task slot e).taskSockets task' slot') := by
  by_cases hself : task' = task ∧ slot' = slot
  · obtain ⟨rfl, rfl⟩ := hself
    rwa [setEntry_self]
  · rw [setEntry_of_ne _ hself]
    exact NsSocketEntry.SameBound.refl _

/-- What a receiving call does to the network and the sockets, and what it returns. -/
structure Receives (s : Sockets) (e : NsSocketEntry) (len : Nat) (r : Sockets × SockAnswer) :
    Prop where
  same : ∀ task slot, (s.taskSockets task slot).SameBound (r.1.taskSockets task slot)
  taken : e.Takes len → r.1.tcp.net = (netUdpRecv s.tcp.net e.localPort (len % 65536)).1 ∧
    r.2.data = ((netUdpRecv s.tcp.net e.localPort (len % 65536)).2.map UdpPacket.data).getD []
  idle : ¬ e.Takes len → r.1.tcp.net = s.tcp.net

lemma receives_not_ready (hused : e.used = true) (hready : readyForRead s.tcp e = false)
    {answer : SockAnswer} (hanswer : answer.data = []) :
    s.Receives e len (s, answer) where
  same _ _ := NsSocketEntry.SameBound.refl _
  taken htakes := by
    have hdata : netUdpHasData s.tcp.net e.localPort = false := by
      simpa [readyForRead, hused, htakes.shutRd, htakes.type, htakes.bound] using hready
    rw [netUdpRecv_of_not_hasData hdata]
    exact ⟨rfl, hanswer⟩
  idle _ := rfl

lemma receives_idle (hnot : ¬ e.Takes len) {t : Tcp} (ht : t.net = s.tcp.net)
    (answer : SockAnswer) : s.Receives e len (s.withTcp t, answer) where
  same _ _ := NsSocketEntry.SameBound.refl _
  taken htakes := absurd htakes hnot
  idle _ := ht

lemma receives_taken (htype : e.type = nsSockDgram) (hbound : e.bound = true)
    (hshut : e.shutRd = false) {net : Net} {pkt : Option UdpPacket}
    (hrecv : netUdpRecv s.tcp.net e.localPort (len % 65536) = (net, pkt)) {s' : Sockets}
    (hsame : ∀ task slot, (s.taskSockets task slot).SameBound (s'.taskSockets task slot))
    (hnet : s'.tcp.net = net) :
    s.Receives e len (s'.received ((pkt.map UdpPacket.data).getD [])) where
  same := hsame
  taken _ := by
    rw [hrecv]
    exact ⟨hnet, rfl⟩
  idle hnot := by
    have hzero : len % 65536 = 0 := by
      by_contra hlen
      exact hnot ⟨htype, hbound, hshut, hlen⟩
    have hnone : netUdpRecv s.tcp.net e.localPort 0 = (s.tcp.net, none) := by
      unfold netUdpRecv
      cases udpFindBinding s.tcp.net e.localPort <;> rfl
    rw [hzero, hnone] at hrecv
    exact hnet.trans (congrArg Prod.fst hrecv).symm

lemma sysRecvfrom_receives (hfd : s.entryForFd task fd = some slot) (len : Nat) :
    s.Receives (s.taskSockets task slot) len (s.sysRecvfrom task fd len) := by
  have hused := entryForFd_used hfd
  unfold sysRecvfrom
  rw [hfd]
  dsimp only
  generalize he : s.taskSockets task slot = e at hused
  split_ifs with hargs htype hbound hready hidle
  · refine receives_idle (t := s.tcp) (fun h => ?_) rfl _
    rcases hargs with hzero | hshut
    · exact h.len (by rw [hzero])
    · exact absurd (h.shutRd.symm.trans hshut) (by decide)
  · exact receives_idle (t := s.tcp) (fun h => by simp [h.bound] at hbound) rfl _
  · exact receives_not_ready hused (by simpa using hready) rfl
  · have hbound' : e.bound = true := by simpa using hbound
    have hshut : e.shutRd = false := by
      rw [not_or] at hargs
      simpa using hargs.2
    rcases hrecv : netUdpRecv s.tcp.net e.localPort (len % 65536) with ⟨net, _ | pkt⟩
    · have hsame : ∀ task slot, (s.taskSockets task slot).SameBound
          ((s.withNet net).taskSockets task slot) := fun _ _ => NsSocketEntry.SameBound.refl _
      exact receives_taken htype hbound' hshut hrecv hsame rfl
    · refine receives_taken (s := s) htype hbound' hshut hrecv (fun task' slot' => ?_) ?_
      · split_ifs
        · refine setEntry_sameBound ?_ _
          rw [he]
          exact ⟨rfl, rfl, rfl, rfl⟩
        · exact NsSocketEntry.SameBound.refl _
      · split_ifs <;> rfl
  · have hnot : ¬ e.Takes len := fun h => htype h.type
    cases e.netConnId with
    | none | some => exact receives_idle (t := s.tcp) hnot rfl _
  · have hnot : ¬ e.Takes len := fun h => htype h.type
    cases e.netConnId with
    | none => exact receives_idle (t := s.tcp) hnot rfl _
    | some i => exact receives_idle hnot (netTcpRecv_net ..) _

lemma sysRead_receives (hfd : s.entryForFd task fd = some slot) (len : Nat) :
    s.Receives (s.taskSockets task slot) len (s.sysRead task fd len) := by
  have hused := entryForFd_used hfd
  unfold sysRead
  rw [hfd]
  dsimp only
  generalize he : s.taskSockets task slot = e at hused
  split_ifs with hshut hready htype hbound
  · refine receives_idle (t := s.tcp) (fun h => ?_) rfl _
    exact absurd (h.shutRd.symm.trans hshut) (by decide)
  · exact receives_not_ready hused (by simpa using hready) rfl
  · exact receives_idle (t := s.tcp) (fun h => by simp [h.bound] at hbound) rfl _
  · have hsame : ∀ task slot, (s.taskSockets task slot).SameBound
        ((s.withNet (netUdpRecv s.tcp.net e.localPort (len % 65536)).1).taskSockets task slot) :=
      fun _ _ => NsSocketEntry.SameBound.refl _
    exact receives_taken htype (by simpa using hbound) (by simpa using hshut) rfl hsame rfl
  · have hnot : ¬ e.Takes len := fun h => htype h.type
    cases e.netConnId with
    | none => exact receives_idle (t := s.tcp) hnot rfl _
    | some i => exact receives_idle hnot (netTcpRecv_net ..) _

/-! ### What one step does to a bound socket -/

lemma udpQueued_congr {net net' : Net} (h : udpBinding net' port = udpBinding net port) :
    udpQueued net' port = udpQueued net port := by
  cases hb : udpBinding net port with
  | some b => rw [udpQueued_of_binding hb, udpQueued_of_binding (h.trans hb)]
  | none =>
    rw [hb] at h
    rw [udpBinding, Option.map_eq_none_iff] at h hb
    rw [udpQueued, udpQueued, h, hb]

/-- The socket stays bound, and what waits for it and what its port accepts is what it is given and
what waits then. -/
structure Keeps (s s' : Sockets) (task : Fin 8) (slot : Fin 64) (port : UInt16)
    (accepted delivered : List UdpPacket) : Prop where
  boundTo : s'.BoundTo task slot port
  queue : udpQueued s.tcp.net port ++ accepted = delivered ++ udpQueued s'.tcp.net port

section

variable (h : s.BoundTo task slot port)
include h

lemma BoundTo.keeps {s' : Sockets}
    (hentry : (s.taskSockets task slot).SameBound (s'.taskSockets task slot))
    (hbinding : udpBinding s'.tcp.net port = udpBinding s.tcp.net port) :
    s.Keeps s' task slot port [] [] where
  boundTo :=
    { entry := hentry.boundDgram h.entry
      binding := by rw [hbinding, h.binding] }
  queue := by rw [udpQueued_congr hbinding, List.append_nil, List.nil_append]

lemma BoundTo.keeps_refl : s.Keeps s task slot port [] [] :=
  h.keeps (NsSocketEntry.SameBound.refl _) rfl

lemma BoundTo.sysSocket (domain type protocol : Int) :
    s.Keeps (s.sysSocket task' domain type protocol).1 task slot port [] [] := by
  unfold Sockets.sysSocket
  split_ifs
  · exact h.keeps_refl
  rcases halloc : s.allocFd task' type protocol with ⟨s₁, _ | slot'⟩
  · obtain rfl : s₁ = s := by
      rw [← allocFd_none (congrArg Prod.snd halloc), halloc]
    exact h.keeps_refl
  · obtain ⟨hset, hunused⟩ := allocFd_spec (congrArg Prod.snd halloc)
    rw [halloc] at hset
    subst hset
    refine h.keeps ?_ rfl
    -- the slot of the new socket was not used
    rw [setEntry_of_ne s]
    · exact NsSocketEntry.SameBound.refl _
    · rintro ⟨rfl, rfl⟩
      exact absurd (h.entry.used.symm.trans hunused) (by decide)

lemma BoundTo.sysBind {fd family : Int} {q : UInt16}
    (hop : ¬ s.Disturbs task slot port (.bind task' fd family q)) :
    s.Keeps (s.sysBind task' fd family q).1 task slot port [] [] := by
  have hbinding : udpBinding (netUdpBind s.tcp.net q).1 port = udpBinding s.tcp.net port := by
    by_cases hq : port = q
    · subst hq
      rw [netUdpBind_of_bound (Option.isSome_iff_ne_none.1 h.binding)]
    · exact udpBinding_bind_other hq
  unfold Sockets.sysBind
  cases hfd : s.entryForFd task' fd with
  | none => exact h.keeps_refl
  | some slot' =>
    dsimp only
    by_cases hself : task = task' ∧ slot = slot'
    · obtain ⟨rfl, rfl⟩ := hself
      split_ifs with hargs htype hbound
      · exact h.keeps_refl
      · rw [not_or, not_not] at hargs
        obtain rfl : q = port := by
          by_contra hq
          exact hop ⟨rfl, hfd, hargs.1, hargs.2, hbound, hq⟩
        have hsame : (s.taskSockets task slot).SameBound
            { s.taskSockets task slot with bound := true, localPort := q } :=
          ⟨rfl, rfl, h.entry.bound.symm, h.entry.localPort.symm⟩
        exact h.keeps (setEntry_sameBound hsame _) hbinding
      · exact h.keeps (NsSocketEntry.SameBound.refl _) hbinding
      · exact absurd h.entry.type htype
    · split_ifs
      · exact h.keeps_refl
      · refine h.keeps ?_ hbinding
        rw [setEntry_of_ne _ hself]
        exact NsSocketEntry.SameBound.refl _
      · exact h.keeps (NsSocketEntry.SameBound.refl _) hbinding
      · refine h.keeps ?_ rfl
        rw [setEntry_of_ne _ hself]
        exact NsSocketEntry.SameBound.refl _

omit h in
lemma netUdpRecv_queue {net : Net} {maxLen : Nat} (hmax : 0 < maxLen)
    (hbound : (udpBinding net port).isSome = true) :
    (udpBinding (netUdpRecv net port maxLen).1 port).isSome = true ∧
      udpQueued (netUdpRecv net port maxLen).1 port = (udpQueued net port).tail := by
  obtain ⟨b, hb⟩ := Option.isSome_iff_exists.1 hbound
  have hafter : udpBinding (netUdpRecv net port maxLen).1 port = some (b.take maxLen).1 := by
    rw [udpBinding_recv hmax, if_pos rfl, hb, Option.map_some]
  rw [hafter, udpQueued_of_binding hafter, udpQueued_of_binding hb, (b.take_queue maxLen).2.1]
  exact ⟨rfl, rfl⟩

lemma BoundTo.receives {slot' : Fin 64} (hfd : s.entryForFd task' fd = some slot')
    (hop : ¬ s.TakesFrom task slot port task' fd len)
    (hr : s.Receives (s.taskSockets task' slot') len r) :
    s.Keeps r.1 task slot port [] ((s.takenBy task slot task' fd len).map Prod.snd) := by
  by_cases htakes : (s.taskSockets task' slot').Takes len
  · obtain ⟨hnet, -⟩ := hr.taken htakes
    have hmax : 0 < len % 65536 := Nat.pos_of_ne_zero htakes.len
    have hdgram : (s.taskSockets task' slot').BoundDgram (s.taskSockets task' slot').localPort :=
      ⟨entryForFd_used hfd, htakes.type, htakes.bound, rfl⟩
    by_cases hself : task = task' ∧ slot = slot'
    · obtain ⟨rfl, rfl⟩ := hself
      rw [h.entry.localPort] at hnet
      obtain ⟨hbound, hqueue⟩ := netUdpRecv_queue hmax h.binding
      rw [← hnet] at hbound hqueue
      refine ⟨⟨(hr.same ..).boundDgram h.entry, hbound⟩, ?_⟩
      rw [takenBy, if_pos ⟨rfl, hfd, htakes⟩, hqueue, h.entry.localPort]
      cases udpQueued s.tcp.net port <;> simp
    · have hnone : s.takenBy task slot task' fd len = [] := by
        rw [takenBy, if_neg]
        rintro ⟨rfl, hfd', -⟩
        exact hself ⟨rfl, Option.some.inj (hfd'.symm.trans hfd)⟩
      rw [hnone]
      by_cases hport : port = (s.taskSockets task' slot').localPort
      · -- the port is shared, and nothing waits there
        have hempty : udpQueued s.tcp.net port = [] := by
          by_contra hne
          rw [← hport] at hdgram
          exact hop ⟨slot', hfd, ⟨hself, hdgram⟩, htakes, hne⟩
        obtain ⟨hbound, hqueue⟩ := netUdpRecv_queue hmax h.binding
        rw [← hport] at hnet
        rw [← hnet] at hbound hqueue
        refine ⟨⟨(hr.same ..).boundDgram h.entry, hbound⟩, ?_⟩
        rw [hqueue, hempty]
        rfl
      · refine h.keeps (hr.same ..) ?_
        rw [hnet, udpBinding_recv hmax, if_neg hport]
  · have hnone : s.takenBy task slot task' fd len = [] := by
      rw [takenBy, if_neg]
      rintro ⟨rfl, hfd', htakes'⟩
      obtain rfl : slot' = slot := Option.some.inj (hfd.symm.trans hfd')
      exact htakes htakes'
    rw [hnone]
    exact h.keeps (hr.same ..) (congrArg (udpBinding · port) (hr.idle htakes))

omit h in
lemma takenBy_of_none (hfd : s.entryForFd task' fd = none) :
    s.takenBy task slot task' fd len = [] := by
  rw [takenBy, if_neg]
  rintro ⟨-, hfd', -⟩
  rw [hfd] at hfd'
  cases hfd'

omit h in
lemma closeEntry_binding (hnot : ¬ (s.taskSockets task slot).BoundDgram port) :
    udpBinding (s.closeEntry task slot).tcp.net port = udpBinding s.tcp.net port := by
  unfold closeEntry
  dsimp only
  split
  · rfl
  rename_i hunused
  generalize ht : (if (s.taskSockets task slot).type = nsSockDgram ∧
    (s.taskSockets task slot).bound = true then _ else _ : Tcp) = t
  have hudp : udpBinding t.net port = udpBinding s.tcp.net port := by
    rw [← ht]
    split_ifs with hdgram
    · refine udpBinding_unbind_other ?_
      rintro rfl
      exact hnot ⟨by simpa using hunused, hdgram.1, hdgram.2, rfl⟩
    · rfl
  rw [← hudp]
  split_ifs
  · exact udpBinding_congr (netTcpUnlisten_bindings ..) port
  · cases (s.taskSockets task slot).netConnId with
    | none => rfl
    | some i => exact udpBinding_congr (netTcpClose_bindings ..) port
  · rfl

omit h in
lemma closeEntry_other (hne : ¬ (task' = task ∧ slot' = slot)) :
    (s.closeEntry task slot).taskSockets task' slot' = s.taskSockets task' slot' := by
  unfold closeEntry
  dsimp only
  split
  · rfl
  · exact setEntry_of_ne _ hne _

omit h in
lemma closeEntry_self : ((s.closeEntry task slot).taskSockets task slot).used = false := by
  unfold closeEntry
  dsimp only
  split_ifs with hunused
  · simpa using hunused
  all_goals
    rw [setEntry_self]
    rfl

lemma BoundTo.closeAllForTask (hne : task ≠ task')
    (hnot : ∀ slot', ¬ (s.taskSockets task' slot').BoundDgram port) :
    s.Keeps (s.closeAllForTask task') task slot port [] [] := by
  have hall : ∀ (l : List (Fin 64)) (s₁ : Sockets),
      (∀ slot', ¬ (s₁.taskSockets task' slot').BoundDgram port) →
      let s₂ := l.foldl (fun s slot' => s.closeEntry task' slot') s₁
      s₂.taskSockets task slot = s₁.taskSockets task slot ∧
        udpBinding s₂.tcp.net port = udpBinding s₁.tcp.net port := by
    intro l
    induction l with
    | nil => exact fun _ _ => ⟨rfl, rfl⟩
    | cons slot₁ l ih =>
      intro s₁ hnot₁
      have hnot₂ : ∀ slot', ¬ ((s₁.closeEntry task' slot₁).taskSockets task' slot').BoundDgram
          port := by
        intro slot' hdgram
        by_cases hslot : slot' = slot₁
        · subst hslot
          exact absurd (hdgram.used.symm.trans closeEntry_self) (by decide)
        · rw [closeEntry_of_ne hslot] at hdgram
          exact hnot₁ slot' hdgram
      obtain ⟨hentry, hbinding⟩ := ih _ hnot₂
      exact ⟨hentry.trans (closeEntry_other fun hsame => hne hsame.1),
        hbinding.trans (closeEntry_binding (hnot₁ slot₁))⟩
  unfold Sockets.closeAllForTask
  obtain ⟨hentry, hbinding⟩ := hall (List.finRange 64) s hnot
  refine h.keeps ?_ hbinding
  rw [hentry]
  exact NsSocketEntry.SameBound.refl _

/-- One step, of any socket and any task. -/
lemma BoundTo.step {op : PortOp} (hundisturbed : Undisturbed task slot port s op) :
    s.Keeps (portStep s op).1 task slot port (portAccepted port s op)
      ((portDelivered task slot s op).map Prod.snd) := by
  obtain ⟨hopen, hop⟩ := hundisturbed
  cases op with
  | socket task' domain type protocol => exact h.sysSocket domain type protocol
  | bind task' fd family q => exact h.sysBind hop
  | recvfrom task' fd len =>
    change s.Keeps (s.sysRecvfrom task' fd len).1 task slot port []
      ((s.takenBy task slot task' fd len).map Prod.snd)
    cases hfd : s.entryForFd task' fd with
    | none =>
      rw [takenBy_of_none hfd, sysRecvfrom, hfd]
      exact h.keeps_refl
    | some slot' => exact h.receives hfd hop (sysRecvfrom_receives hfd len)
  | read task' fd size =>
    change s.Keeps (s.sysRead task' fd size).1 task slot port []
      ((s.takenBy task slot task' fd size).map Prod.snd)
    cases hfd : s.entryForFd task' fd with
    | none =>
      rw [takenBy_of_none hfd, sysRead, hfd]
      exact h.keeps_refl
    | some slot' => exact h.receives hfd hop (sysRead_receives hfd size)
  | close task' fd =>
    change s.Keeps (s.sysClose task' fd).1 task slot port [] []
    unfold sysClose
    cases hfd : s.entryForFd task' fd with
    | none => exact h.keeps_refl
    | some slot' =>
      have hne : ¬ (task = task' ∧ slot = slot') := by
        rintro ⟨rfl, rfl⟩
        exact hopen ⟨rfl, hfd⟩
      refine h.keeps ?_ (closeEntry_binding fun hdgram => ?_)
      · rw [closeEntry_other hne]
        exact NsSocketEntry.SameBound.refl _
      · exact hop ⟨slot', hfd, hne, hdgram⟩
  | exit task' =>
    have hne : task ≠ task' := fun htask => hopen htask.symm
    have hkeeps := h.closeAllForTask hne fun slot' hdgram => hop ⟨hne.symm, slot', hdgram⟩
    simpa only [portStep, portAccepted, portDelivered, List.map_nil] using hkeeps
  | arrive q packet =>
    obtain ⟨b, hb⟩ := Option.isSome_iff_exists.1 h.binding
    change s.Keeps (s.withNet (udpEnqueuePacket s.tcp.net q packet).1) task slot port
      (if q = port ∧ (udpEnqueuePacket s.tcp.net q packet).2 then [packet] else []) []
    by_cases hq : q = port
    · subst hq
      have hafter : udpBinding (udpEnqueuePacket s.tcp.net q packet).1 q =
          some (b.offer packet).1 := by
        rw [udpBinding_enqueue, if_pos rfl, hb, Option.map_some]
      have hresult : (udpEnqueuePacket s.tcp.net q packet).2 = (b.offer packet).2 := by
        rw [udpEnqueuePacket_accepted, hb]
        rfl
      refine ⟨⟨h.entry, ?_⟩, ?_⟩
      · change (udpBinding (udpEnqueuePacket s.tcp.net q packet).1 q).isSome = true
        rw [hafter]
        rfl
      · change _ = [] ++ udpQueued (udpEnqueuePacket s.tcp.net q packet).1 q
        rw [udpQueued_of_binding hb, udpQueued_of_binding hafter, hresult]
        rcases b.offer_cases packet with ⟨hok, hqueue, -⟩ | ⟨hno, hqueue, -⟩
        · rw [hqueue, if_pos ⟨rfl, hok⟩, List.nil_append]
        · rw [hqueue, if_neg fun hand => absurd (hno.symm.trans hand.2) (by decide),
            List.append_nil, List.nil_append]
    · rw [if_neg fun hand => hq hand.1]
      refine h.keeps (NsSocketEntry.SameBound.refl _) ?_
      change udpBinding (udpEnqueuePacket s.tcp.net q packet).1 port = _
      rw [udpBinding_enqueue, if_neg (Ne.symm hq)]

end

lemma Receives.data {slot : Fin 64} {pkt : UdpPacket}
    (hr : s.Receives (s.taskSockets task slot) len r) (htakes : (s.taskSockets task slot).Takes len)
    (hhead : (udpQueued s.tcp.net (s.taskSockets task slot).localPort).head? = some pkt) :
    r.2.data = pkt.data.take (len % 65536) := by
  rw [(hr.taken htakes).2, netUdpRecv_returned (Nat.pos_of_ne_zero htakes.len)]
  cases hb : udpBinding s.tcp.net (s.taskSockets task slot).localPort with
  | none =>
    rw [udpBinding, Option.map_eq_none_iff] at hb
    rw [udpQueued, hb] at hhead
    cases hhead
  | some b =>
    rw [udpQueued_of_binding hb] at hhead
    rw [Option.bind_some, (b.take_queue _).1, hhead]
    rfl

lemma takenBy_data (hr : ∀ slot', s.entryForFd task' fd = some slot' →
      s.Receives (s.taskSockets task' slot') len r) :
    (if s.takenBy task slot task' fd len = [] then [] else [r.2.data]) =
      (s.takenBy task slot task' fd len).map fun d => d.2.data.take d.1 := by
  unfold takenBy
  split_ifs with htaken hempty
  · rw [hempty]
    rfl
  · obtain ⟨rfl, hfd, htakes⟩ := htaken
    cases hhead : (udpQueued s.tcp.net (s.taskSockets task' slot).localPort).head? with
    | none =>
      rw [hhead] at hempty
      exact absurd rfl hempty
    | some pkt =>
      rw [(hr slot hfd).data htakes hhead]
      rfl
  · rfl
  · rename_i hne
    exact absurd rfl hne

lemma portAnswers_eq (task : Fin 8) (slot : Fin 64) (s : Sockets) (op : PortOp) :
    portAnswers task slot s op =
      (portDelivered task slot s op).map fun d => d.2.data.take d.1 := by
  cases op with
  | recvfrom task' fd len => exact takenBy_data fun slot' hfd => sysRecvfrom_receives hfd len
  | read task' fd size => exact takenBy_data fun slot' hfd => sysRead_receives hfd size
  | _ => rfl

lemma sysBind_boundTo {s₀ : Sockets} {family : Int} (hfd : s.entryForFd task fd = some slot)
    (htype : (s.taskSockets task slot).type = nsSockDgram)
    (hbind : s.sysBind task fd family port = (s₀, ⟨nsOk, []⟩)) : s₀.BoundTo task slot port := by
  have hused := entryForFd_used hfd
  unfold Sockets.sysBind at hbind
  rw [hfd] at hbind
  dsimp only at hbind
  split_ifs at hbind with hargs hbound
  · cases hbind
  · obtain rfl := congrArg Prod.fst hbind
    refine ⟨?_, ?_⟩
    · rw [setEntry_self]
      exact ⟨hused, htype, rfl, rfl⟩
    · change (udpBinding (netUdpBind s.tcp.net port).1 port).isSome = true
      cases hfind : udpFindBinding s.tcp.net port with
      | none =>
        obtain ⟨b, hb, -⟩ := netUdpBind_fresh hfind hbound
        rw [hb]
        rfl
      | some i =>
        have hsome : (udpBinding s.tcp.net port).isSome = true := by
          rw [udpBinding_isSome, hfind]
          rfl
        rw [netUdpBind_of_bound (Option.isSome_iff_ne_none.1 hsome), hsome]
  · cases hbind

/-- In every run that leaves the socket open and its port to it the port stays bound, and the socket
is given what the port accepts, in order and each datagram once, cut to the buffers of its calls. -/
theorem dgramSocket_receives_port {s₀ : Sockets} {family : Int}
    (hfd : s.entryForFd task fd = some slot) (htype : (s.taskSockets task slot).type = nsSockDgram)
    (hbind : s.sysBind task fd family port = (s₀, ⟨nsOk, []⟩)) {ops : List PortOp}
    (hrun : Machine.Runs (Undisturbed task slot port) portStep s₀ ops) :
    (Machine.run portStep s₀ ops).BoundTo task slot port ∧
      udpQueued s₀.tcp.net port ++ Machine.log (portAccepted port) portStep s₀ ops =
        (Machine.log (portDelivered task slot) portStep s₀ ops).map Prod.snd ++
          udpQueued (Machine.run portStep s₀ ops).tcp.net port ∧
      Machine.log (portAnswers task slot) portStep s₀ ops =
        (Machine.log (portDelivered task slot) portStep s₀ ops).map
          fun d => d.2.data.take d.1 := by
  have hbound := sysBind_boundTo hfd htype hbind
  have hstep : ∀ (s : Sockets) (op : PortOp), s.BoundTo task slot port →
      Undisturbed task slot port s op → (portStep s op).1.BoundTo task slot port :=
    fun s op h hop => (h.step hop).boundTo
  have hdelivered := Machine.log_map (I := fun s : Sockets => s.BoundTo task slot port) hstep
    (f := portDelivered task slot) (g := fun s op => (portDelivered task slot s op).map Prod.snd)
    (fun _ _ _ _ => rfl) hbound hrun
  have hanswers := Machine.log_map (I := fun s : Sockets => s.BoundTo task slot port) hstep
    (fun s op _ _ => portAnswers_eq task slot s op) hbound hrun
  refine ⟨Machine.run_invariant hstep hbound hrun, ?_, hanswers⟩
  rw [← hdelivered]
  exact Machine.log_conserved (I := fun s : Sockets => s.BoundTo task slot port) hstep
    (fun s op h hop => (h.step hop).queue) hbound hrun

end Sockets

/-- Two tasks, each with a datagram socket. -/
def twoDgramSockets : Sockets :=
  Machine.run portStep Sockets.booted [.socket 0 2 2 0, .socket 1 2 2 0]

/-- A datagram comes to the port of a socket, which reads three bytes of it. -/
theorem dgramSocket_receives_port_once :
    Machine.log (Sockets.portAnswers 0 0) portStep (twoDgramSockets.sysBind 0 1024 2 9000).1
      [.arrive 9000 ⟨0x0A000202, 5000, [1, 2, 3, 4]⟩, .recvfrom 0 1024 3] = [[1, 2, 3]] := by
  have hrun : Machine.Runs (Sockets.Undisturbed 0 0 9000) portStep
      (twoDgramSockets.sysBind 0 1024 2 9000).1
      [.arrive 9000 ⟨0x0A000202, 5000, [1, 2, 3, 4]⟩, .recvfrom 0 1024 3] := by
    refine ⟨⟨fun h => h, fun h => h⟩, ⟨fun h => h, ?_⟩, trivial⟩
    rintro ⟨slot', hfd, ⟨hne, -⟩, -⟩
    refine hne ⟨rfl, Option.some.inj (Eq.trans ?_ hfd)⟩
    decide
  have hbind : twoDgramSockets.sysBind 0 1024 2 9000 =
      ((twoDgramSockets.sysBind 0 1024 2 9000).1, ⟨nsOk, []⟩) :=
    Prod.ext rfl (by decide)
  have hanswers := (Sockets.dgramSocket_receives_port (by decide) (by decide) hbind
    hrun).2.2
  rw [hanswers]
  decide

/-- Two tasks bind the same port, and the second closes its socket: the first is open and bound, and
its port is not. -/
theorem dgramSocket_loses_port :
    (twoDgramSockets.sysBind 0 1024 2 9000).2 = ⟨nsOk, []⟩ ∧
    ((Machine.run portStep (twoDgramSockets.sysBind 0 1024 2 9000).1
      [.bind 1 1024 2 9000, .close 1 1024]).taskSockets 0 0).BoundDgram 9000 ∧
    udpFindBinding (Machine.run portStep (twoDgramSockets.sysBind 0 1024 2 9000).1
      [.bind 1 1024 2 9000, .close 1 1024]).tcp.net 9000 = none := by
  refine ⟨by decide, ⟨?_, ?_, ?_, ?_⟩, ?_⟩ <;> decide

end NeuroSpark
