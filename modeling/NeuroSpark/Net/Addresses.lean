import NeuroSpark.Net.Entries
import NeuroSpark.Net.Peers

/-!
# Who a segment is for

A segment is for the connection with its addresses and ports. New entries of the table come from
`net_tcp_listen` and from requests, which look for an entry that has the port or the addresses
already, and from `net_tcp_connect`, which does not.
-/

namespace NeuroSpark

open Network

/-- The peer and the local port. -/
def TcpConn.address (c : TcpConn) : Peer × UInt16 := (c.peer, c.localPort)

/-- An entry that a segment can be for. -/
def TcpConn.Live (c : TcpConn) : Prop := c.used = true ∧ c.listening = false ∧ c.state ≠ .closed

def TcpConn.Listens (c : TcpConn) : Prop := c.used = true ∧ c.listening = true

instance (c : TcpConn) : Decidable c.Live := inferInstanceAs (Decidable (_ ∧ _ ∧ _))

instance (c : TcpConn) : Decidable c.Listens := inferInstanceAs (Decidable (_ ∧ _))

section

variable {t : Tcp} {i : Fin 32} {ip : UInt32} {remotePort localPort port : UInt16}

lemma tcpFindConn_test (c : TcpConn) : (c.used && !c.listening && c.remoteIp == ip &&
    c.remotePort == remotePort && c.localPort == localPort && c.state != .closed) = true ↔
      c.Live ∧ c.address = ((ip, remotePort), localPort) := by
  simp only [Bool.and_eq_true, Bool.not_eq_true', beq_iff_eq, bne_iff_ne, TcpConn.Live,
    TcpConn.address, TcpConn.peer, Prod.mk.injEq]
  constructor
  · rintro ⟨⟨⟨⟨⟨hused, hlistening⟩, hip⟩, hremote⟩, hlocal⟩, hstate⟩
    exact ⟨⟨hused, hlistening, hstate⟩, ⟨hip, hremote⟩, hlocal⟩
  · rintro ⟨⟨hused, hlistening, hstate⟩, ⟨hip, hremote⟩, hlocal⟩
    exact ⟨⟨⟨⟨⟨hused, hlistening⟩, hip⟩, hremote⟩, hlocal⟩, hstate⟩

lemma tcpFindConn_some (h : tcpFindConn t ip remotePort localPort = some i) :
    (t.conns i).Live ∧ (t.conns i).address = ((ip, remotePort), localPort) := by
  have hprop := List.find?_some h
  exact (tcpFindConn_test _).1 hprop

lemma tcpFindConn_none : tcpFindConn t ip remotePort localPort = none ↔
    ∀ i, (t.conns i).Live → (t.conns i).address ≠ ((ip, remotePort), localPort) := by
  rw [tcpFindConn, List.find?_eq_none]
  simp only [tcpFindConn_test, List.mem_finRange, forall_true_left, not_and, ne_eq]

lemma tcpFindListener_test (c : TcpConn) : (c.used && c.listening && c.localPort == port) = true ↔
    c.Listens ∧ c.localPort = port := by
  simp only [Bool.and_eq_true, beq_iff_eq, TcpConn.Listens]

lemma tcpFindListener_some (h : tcpFindListener t port = some i) :
    (t.conns i).Listens ∧ (t.conns i).localPort = port := by
  have hprop := List.find?_some h
  exact (tcpFindListener_test _).1 hprop

lemma tcpFindListener_none : tcpFindListener t port = none ↔
    ∀ i, (t.conns i).Listens → (t.conns i).localPort ≠ port := by
  rw [tcpFindListener, List.find?_eq_none]
  simp only [tcpFindListener_test, List.mem_finRange, forall_true_left, not_and, ne_eq]

end

variable {c c' : TcpConn}

/-! ### The same connection after a step -/

/-- The entry has the same connection, or has been freed. -/
structure TcpConn.Follows (c c' : TcpConn) : Prop where
  address : c'.address = c.address
  listening : c'.listening = c.listening
  parentListen : c'.parentListen = c.parentListen
  used : c'.used = true → c.used = true
  state : c'.state ≠ .closed → c.state ≠ .closed
  accepted : c.accepted = true → c'.accepted = true

lemma TcpConn.Follows.live (h : c.Follows c') (hlive : c'.Live) : c.Live :=
  ⟨h.used hlive.1, h.listening.symm.trans hlive.2.1, h.state hlive.2.2⟩

lemma TcpConn.Follows.listens (h : c.Follows c') (hlistens : c'.Listens) : c.Listens :=
  ⟨h.used hlistens.1, h.listening.symm.trans hlistens.2⟩

lemma TcpConn.Follows.refl (c : TcpConn) : c.Follows c := ⟨rfl, rfl, rfl, id, id, id⟩

/-- What says which connection an entry has. -/
def TcpConn.identity (c : TcpConn) : (Peer × UInt16) × Bool × Option (Fin 32) × Bool × Bool :=
  (c.address, c.listening, c.parentListen, c.used, c.accepted)

lemma TcpConn.Follows.of_identity (h : c'.identity = c.identity)
    (hstate : c'.state ≠ .closed → c.state ≠ .closed) : c.Follows c' := by
  obtain ⟨haddress, hlistening, hparent, hused, haccepted⟩ :
      c'.address = c.address ∧ c'.listening = c.listening ∧ c'.parentListen = c.parentListen ∧
        c'.used = c.used ∧ c'.accepted = c.accepted := by
    simpa only [TcpConn.identity, Prod.mk.injEq] using h
  exact ⟨haddress, hlistening, hparent, fun h => hused ▸ h, hstate, fun h => haccepted ▸ h⟩

lemma TcpConn.Follows.of_freed (h : c'.identity = { c with used := false }.identity)
    (hstate : c'.state ≠ .closed → c.state ≠ .closed) : c.Follows c' := by
  have hfreed : ({ c with used := false } : TcpConn).Follows c' :=
    TcpConn.Follows.of_identity h hstate
  exact ⟨hfreed.address, hfreed.listening, hfreed.parentListen, fun h => (by cases hfreed.used h),
    hstate, hfreed.accepted⟩

section

variable {c : TcpConn}

lemma identity_takeAck (c : TcpConn) (ack : UInt32) (flags : UInt8) :
    (tcpTakeAck c ack flags).identity = c.identity := by
  unfold tcpTakeAck
  split
  · rfl
  · rfl

lemma identity_takePayload (c : TcpConn) (seq : UInt32) (payload : List UInt8) :
    (tcpTakePayload c seq payload).identity = c.identity := by
  obtain ⟨queue, hsame, -⟩ := tcpQueueRx_spec c payload
  unfold tcpTakePayload
  dsimp only
  rw [hsame]
  split_ifs
  · rfl
  · rfl
  · rfl

lemma identity_takeFin (c : TcpConn) (g : TcpSegment) : (c.takeFin g).identity = c.identity := by
  unfold TcpConn.takeFin
  split
  · rfl
  · rfl

lemma TcpConn.follows_hear (c : TcpConn) (lost : Bool) (g : TcpSegment) :
    c.Follows (c.hear lost g) := by
  unfold TcpConn.hear
  split
  · exact .of_freed rfl fun h => absurd rfl h
  have hopen := TcpConn.hear_open_induction (P := fun c' => c'.identity = c.identity) (c := c)
    lost (g := g) (identity_takeAck c g.ack g.flags)
    (fun c' h => (identity_takePayload c' g.seq g.payload).trans h)
    (fun c' h => (identity_takeFin c' g).trans h)
  split
  · split
    · exact .of_freed rfl fun h => absurd rfl h
    split
    · exact .of_identity rfl id
    · exact .refl c
  · rename_i hstate
    split_ifs
    · refine .of_identity rfl fun _ => ?_
      rw [hstate]
      decide
    · exact .refl c
  · rename_i hstate
    split_ifs
    · refine .of_identity rfl fun _ => ?_
      rw [hstate]
      decide
    · exact .refl c
  · rename_i hstate
    refine .of_identity hopen fun _ => ?_
    rw [hstate]
    decide
  · rename_i hstate
    refine .of_identity hopen fun _ => ?_
    rw [hstate]
    decide
  · exact .refl c
  · exact .refl c

end

/-- The entry is taken for a new connection or a new listener. -/
def ConnEvent.IsNew : ConnEvent → Prop
  | .listen _ => True
  | .start _ _ _ => True
  | _ => False

lemma Tcp.state_of_fin {t : Tcp} {o : TcpOp} {j : Fin 32} {tick : UInt32}
    (h : t.eventAt o j = .fin tick) :
    (t.conns j).state = .established ∨ (t.conns j).state = .closeWait := by
  rcases Tcp.called_of_event (Or.inr h) with ⟨i, data, rfl⟩ | ⟨i, rfl⟩
  · simp only [Tcp.eventAt] at h
    split_ifs at h
  · simp only [Tcp.eventAt] at h
    split_ifs at h with hi hstate
    rw [← hi.1]
    exact hstate.2.1

lemma Tcp.follows_step (t : Tcp) (o : TcpOp) (j : Fin 32) (hold : ¬ (t.eventAt o j).IsNew) :
    (t.conns j).Follows ((t.step o).1.conns j) := by
  rw [Tcp.step_conns]
  cases hevent : t.eventAt o j with
  | idle => exact .refl _
  | listen port =>
    rw [hevent] at hold
    exact absurd trivial hold
  | start n tick sent =>
    rw [hevent] at hold
    exact absurd trivial hold
  | unlisten => exact .of_freed rfl id
  | accept => exact ⟨rfl, rfl, rfl, id, id, fun _ => rfl⟩
  | send tick payload => exact .of_identity rfl id
  | fin tick =>
    refine .of_identity rfl fun _ => ?_
    rcases Tcp.state_of_fin hevent with hstate | hstate
    · rw [hstate]
      decide
    · rw [hstate]
      decide
  | drop => exact .of_freed rfl fun h => absurd rfl h
  | retransmit tick => exact .of_identity rfl id
  | hear lost g => exact TcpConn.follows_hear _ lost g
  | recv =>
    unfold ConnEvent.apply
    dsimp only
    split
    · exact .of_identity rfl id
    · exact .refl _

/-- How an entry is taken. -/
lemma Tcp.eventAt_new {t : Tcp} {o : TcpOp} {j : Fin 32} (h : (t.eventAt o j).IsNew) :
    tcpFreeConn t = some j ∧
      ((∃ port, o = .listen port ∧ tcpFindListener t port = none ∧ t.eventAt o j = .listen port) ∨
      (∃ dstIp dstPort srcPort, o = .connect dstIp dstPort srcPort ∧
        ¬ (dstIp = 0 ∨ dstPort = 0 ∨ srcPort = 0) ∧
        t.eventAt o j = .start (tcpConnecting t dstIp dstPort srcPort) t.net.tick t.net.CardReady) ∨
      ∃ srcIp dstIp tcp g listener, o = .segment srcIp dstIp tcp ∧
        tcpDecode srcIp dstIp tcp = some g ∧
        tcpFindConn t srcIp g.srcPort g.dstPort = none ∧
        tcpFindListener t g.dstPort = some listener ∧
        g.has tcpFlagSyn = true ∧
        t.eventAt o j = .start (tcpRequested t listener srcIp g) t.net.tick t.net.CardReady) := by
  cases o with
  | listen port =>
    unfold Tcp.eventAt at h ⊢
    dsimp only at h ⊢
    split_ifs at h ⊢ with hargs
    · refine ⟨hargs.2, Or.inl ⟨port, rfl, ?_, rfl⟩⟩
      simpa using (not_or.1 hargs.1).2
    · exact h.elim
  | connect dstIp dstPort srcPort =>
    unfold Tcp.eventAt at h ⊢
    dsimp only at h ⊢
    split_ifs at h ⊢ with hargs
    · exact ⟨hargs.2, Or.inr (Or.inl ⟨dstIp, dstPort, srcPort, rfl, hargs.1, rfl⟩)⟩
    · exact h.elim
  | segment srcIp dstIp tcp =>
    rcases t.eventAt_segment_cases srcIp dstIp tcp j with
      hidle | ⟨g, -, hhear⟩ | ⟨g, listener, hg, hfind, hlistener, hsyn, hfree, hnew⟩
    · rw [hidle] at h
      exact h.elim
    · rw [hhear] at h
      exact h.elim
    · exact ⟨hfree, Or.inr (Or.inr ⟨srcIp, dstIp, tcp, g, listener, rfl, hg, hfind, hlistener, hsyn,
        hnew⟩)⟩
  | poll =>
    unfold Tcp.eventAt TcpConn.pollEvent at h
    dsimp only at h
    split_ifs at h <;> exact h.elim
  | outside net => exact h.elim
  | _ =>
    unfold Tcp.eventAt at h
    dsimp only at h
    split_ifs at h <;> exact h.elim

lemma TcpConn.start_live {c : TcpConn} {n : TcpOpening} {tick : UInt32} {sent : Bool}
    (hstate : n.state ≠ .closed) : (c.start n tick sent).Live ↔ sent = true := by
  cases sent with
  | false => exact iff_of_false (fun h => by cases h.1) (by decide)
  | true => exact iff_of_true ⟨rfl, rfl, hstate⟩ rfl

lemma TcpConn.start_address (c : TcpConn) (n : TcpOpening) (tick : UInt32) (sent : Bool) :
    (c.start n tick sent).address = ((n.remoteIp, n.remotePort), n.localPort) ∧
      (c.start n tick sent).listening = false := by
  cases sent with
  | false | true => exact ⟨rfl, rfl⟩

/-! ### Every connection is found -/

/-- No two connections have the same addresses and ports, no two listeners the same port, and a
segment finds the connection that it is for. -/
structure Tcp.Identified (t : Tcp) : Prop where
  conn : ∀ i j, (t.conns i).Live → (t.conns j).Live →
    (t.conns i).address = (t.conns j).address → i = j
  listener : ∀ i j, (t.conns i).Listens → (t.conns j).Listens →
    (t.conns i).localPort = (t.conns j).localPort → i = j
  found : ∀ i, (t.conns i).Live →
    tcpFindConn t (t.conns i).remoteIp (t.conns i).remotePort (t.conns i).localPort = some i

/-- A call of `net_tcp_connect` that goes through finds no connection with the same addresses. -/
def Tcp.ConnectsNew (t : Tcp) : TcpOp → Prop
  | .connect dstIp dstPort srcPort =>
    ¬ (dstIp = 0 ∨ dstPort = 0 ∨ srcPort = 0) → tcpFreeConn t ≠ none → t.net.CardReady →
      tcpFindConn t dstIp dstPort srcPort = none
  | _ => True

section

variable {t : Tcp} {o : TcpOp}

lemma Tcp.Identified.of_unique
    (hconn : ∀ i j, (t.conns i).Live → (t.conns j).Live →
      (t.conns i).address = (t.conns j).address → i = j)
    (hlistener : ∀ i j, (t.conns i).Listens → (t.conns j).Listens →
      (t.conns i).localPort = (t.conns j).localPort → i = j) : t.Identified where
  conn := hconn
  listener := hlistener
  found i hlive := by
    cases hfind : tcpFindConn t (t.conns i).remoteIp (t.conns i).remotePort
      (t.conns i).localPort with
    | none => exact absurd rfl (tcpFindConn_none.1 hfind i hlive)
    | some j =>
      obtain ⟨hlive', haddress⟩ := tcpFindConn_some hfind
      rw [hconn j i hlive' hlive haddress]

/-- One entry is taken, and no connection has its addresses. -/
lemma Tcp.Identified.take (h : t.Identified) {t' : Tcp} {i : Fin 32}
    (hother : ∀ j ≠ i, (t.conns j).Follows (t'.conns j))
    (hconn : (t'.conns i).Live → ∀ j, (t.conns j).Live → (t.conns j).address ≠ (t'.conns i).address)
    (hlistener : (t'.conns i).Listens →
      ∀ j, (t.conns j).Listens → (t.conns j).localPort ≠ (t'.conns i).localPort) :
    t'.Identified := by
  have hport : ∀ {c c' : TcpConn}, c.Follows c' → c'.localPort = c.localPort := fun hf =>
    congrArg Prod.snd hf.address
  refine .of_unique (fun j k hj hk heq => ?_) fun j k hj hk heq => ?_
  · by_cases hji : j = i
    · by_cases hki : k = i
      · rw [hji, hki]
      · subst hji
        have hf := hother k hki
        exact absurd (hf.address.symm.trans heq.symm) (hconn hj k (hf.live hk))
    · have hfj := hother j hji
      by_cases hki : k = i
      · subst hki
        exact absurd (hfj.address.symm.trans heq) (hconn hk j (hfj.live hj))
      · have hfk := hother k hki
        exact h.conn j k (hfj.live hj) (hfk.live hk)
          (hfj.address.symm.trans (heq.trans hfk.address))
  · by_cases hji : j = i
    · by_cases hki : k = i
      · rw [hji, hki]
      · subst hji
        have hf := hother k hki
        exact absurd ((hport hf).symm.trans heq.symm) (hlistener hj k (hf.listens hk))
    · have hfj := hother j hji
      by_cases hki : k = i
      · subst hki
        exact absurd ((hport hfj).symm.trans heq) (hlistener hk j (hfj.listens hj))
      · have hfk := hother k hki
        exact h.listener j k (hfj.listens hj) (hfk.listens hk)
          ((hport hfj).symm.trans (heq.trans (hport hfk)))

lemma Tcp.Identified.keep (h : t.Identified) {t' : Tcp}
    (hall : ∀ j, (t.conns j).Follows (t'.conns j)) :
    t'.Identified := by
  refine .of_unique (fun j k hj hk heq => ?_) fun j k hj hk heq => ?_
  · exact h.conn j k ((hall j).live hj) ((hall k).live hk)
      ((hall j).address.symm.trans (heq.trans (hall k).address))
  · refine h.listener j k ((hall j).listens hj) ((hall k).listens hk) ?_
    have hj' := congrArg Prod.snd (hall j).address
    have hk' := congrArg Prod.snd (hall k).address
    exact hj'.symm.trans (heq.trans hk')

lemma Tcp.Identified.step (h : t.Identified) (hok : t.ConnectsNew o) : (t.step o).1.Identified := by
  by_cases hnew : ∃ i, (t.eventAt o i).IsNew
  swap
  · exact h.keep fun j => t.follows_step o j fun hj => hnew ⟨j, hj⟩
  obtain ⟨i, hi⟩ := hnew
  obtain ⟨hfree, hcases⟩ := Tcp.eventAt_new hi
  refine h.take (i := i) (fun j hj => t.follows_step o j fun hj' => ?_) ?_ ?_
  · exact hj (Option.some.inj ((Tcp.eventAt_new hj').1.symm.trans hfree))
  · rw [Tcp.step_conns]
    intro hlive
    rcases hcases with ⟨port, -, -, hevent⟩ | ⟨dstIp, dstPort, srcPort, rfl, hargs, hevent⟩ |
      ⟨srcIp, dstIp, tcp, g, listener, rfl, -, hfind, -, -, hevent⟩
    · rw [hevent] at hlive
      cases hlive.2.1
    · rw [hevent] at hlive ⊢
      have hready := (TcpConn.start_live (by simp [tcpConnecting])).1 hlive
      rw [ConnEvent.apply, (TcpConn.start_address ..).1]
      exact tcpFindConn_none.1 (hok hargs (by rw [hfree]; simp) (of_decide_eq_true hready))
    · rw [hevent, ConnEvent.apply, (TcpConn.start_address ..).1]
      exact tcpFindConn_none.1 hfind
  · rw [Tcp.step_conns]
    intro hlistens
    rcases hcases with ⟨port, -, hnone, hevent⟩ | ⟨dstIp, dstPort, srcPort, -, -, hevent⟩ |
      ⟨srcIp, dstIp, tcp, g, listener, -, -, -, -, -, hevent⟩
    · rw [hevent]
      exact tcpFindListener_none.1 hnone
    · rw [hevent, TcpConn.Listens, ConnEvent.apply, (TcpConn.start_address ..).2] at hlistens
      cases hlistens.2
    · rw [hevent, TcpConn.Listens, ConnEvent.apply, (TcpConn.start_address ..).2] at hlistens
      cases hlistens.2

/-- After a call that connects to where a connection leads already there are two of them. -/
lemma Tcp.connectsNew_of_identified (h : (t.step o).1.Identified) : t.ConnectsNew o := by
  cases o with
  | connect dstIp dstPort srcPort =>
    intro hargs hfree hready
    obtain ⟨i, hi⟩ := Option.ne_none_iff_exists'.1 hfree
    cases hfind : tcpFindConn t dstIp dstPort srcPort with
    | none => rfl
    | some j =>
      obtain ⟨hlive, haddress⟩ := tcpFindConn_some hfind
      have hne : i ≠ j := by
        rintro rfl
        rw [TcpConn.Live, tcpFreeConn_spec hi] at hlive
        cases hlive.1
      have hold : (t.step (.connect dstIp dstPort srcPort)).1.conns j = t.conns j := by
        have hidle : t.eventAt (.connect dstIp dstPort srcPort) j = .idle :=
          if_neg fun h => hne (Option.some.inj (hi.symm.trans h.2))
        rw [Tcp.step_conns, hidle]
        rfl
      have hnew : (t.step (.connect dstIp dstPort srcPort)).1.conns i = (t.conns i).start
          (tcpConnecting t dstIp dstPort srcPort) t.net.tick t.net.CardReady := by
        have hstart : t.eventAt (.connect dstIp dstPort srcPort) i =
            .start (tcpConnecting t dstIp dstPort srcPort) t.net.tick t.net.CardReady :=
          if_pos ⟨hargs, hi⟩
        rw [Tcp.step_conns, hstart]
        rfl
      refine absurd (h.conn i j ?_ ?_ ?_) hne
      · rw [hnew]
        exact (TcpConn.start_live (by simp [tcpConnecting])).2 (decide_eq_true hready)
      · rwa [hold]
      · rw [hnew, hold, haddress]
        exact (TcpConn.start_address ..).1
  | _ => trivial

lemma Tcp.identified_of_unused (h : ∀ i, (t.conns i).used = false) : t.Identified := by
  refine .of_unique (fun i _ hi => ?_) fun i _ hi => ?_
  · rw [TcpConn.Live, h i] at hi
    cases hi.1
  · rw [TcpConn.Listens, h i] at hi
    cases hi.1

end

/-! ### Sockets -/

def TcpOp.IsConnect : TcpOp → Prop
  | .connect _ _ _ => True
  | _ => False

/-- Calls of TCP lead from one state to another, and `net_tcp_connect` is not among them. -/
def Tcp.Leads (t t' : Tcp) : Prop :=
  ∃ ops, (∀ op ∈ ops, ¬ TcpOp.IsConnect op) ∧ t' = Machine.run Tcp.step t ops

section

variable {t t' t'' : Tcp}

lemma Tcp.Leads.refl (t : Tcp) : t.Leads t := ⟨[], by simp, rfl⟩

lemma Tcp.Leads.step (t : Tcp) (op : TcpOp) (h : ¬ op.IsConnect) : t.Leads (t.step op).1 :=
  ⟨[op], by simpa using h, rfl⟩

lemma Tcp.Leads.outside (t : Tcp) (net : Net) : t.Leads { t with net := net } :=
  .step t (.outside net) id

lemma Tcp.Leads.trans (h : t.Leads t') (h' : t'.Leads t'') : t.Leads t'' := by
  obtain ⟨ops, hops, rfl⟩ := h
  obtain ⟨ops', hops', rfl⟩ := h'
  refine ⟨ops ++ ops', fun op hop => ?_, (Machine.run_append ..).symm⟩
  rcases List.mem_append.1 hop with hmem | hmem
  · exact hops op hmem
  · exact hops' op hmem

lemma Tcp.Leads.identified (h : t.Leads t') (ht : t.Identified) : t'.Identified := by
  obtain ⟨ops, hops, rfl⟩ := h
  have hruns : Machine.Runs (fun _ op => ¬ TcpOp.IsConnect op) Tcp.step t ops :=
    Machine.Runs.of_forall_mem hops
  refine Machine.run_invariant (fun t op ht hop => ht.step ?_) ht hruns
  cases op with
  | connect dstIp dstPort srcPort => exact absurd trivial hop
  | _ => trivial

end

namespace Sockets

variable {s : Sockets} {task : Fin 8} {slot : Fin 64}

section

variable (s : Sockets) (task : Fin 8)

lemma leads_closeEntry (slot : Fin 64) : s.tcp.Leads (s.closeEntry task slot).tcp := by
  unfold closeEntry
  dsimp only
  split
  · exact .refl _
  generalize ht : (if (s.taskSockets task slot).type = nsSockDgram ∧
    (s.taskSockets task slot).bound = true then _ else _ : Tcp) = t
  have hudp : s.tcp.Leads t := by
    rw [← ht]
    split
    · exact .outside _ _
    · exact .refl _
  split
  · split
    · exact hudp.trans (.step t (.unlisten _) id)
    · split
      · exact hudp
      · exact hudp.trans (.step t (.close _) id)
  · exact hudp

lemma leads_closeAllForTask : s.tcp.Leads (s.closeAllForTask task).tcp := by
  unfold closeAllForTask
  induction List.finRange 64 generalizing s with
  | nil => exact .refl _
  | cons slot slots ih => exact (leads_closeEntry s task slot).trans (ih _)

lemma allocFd_tcp (type protocol : Int) : (s.allocFd task type protocol).1.tcp = s.tcp := by
  cases hslot : (s.allocFd task type protocol).2 with
  | none => rw [allocFd_none hslot]
  | some slot => rw [(allocFd_spec hslot).1, setEntry_tcp]

lemma leads_sysSocket (domain type protocol : Int) :
    s.tcp.Leads (s.sysSocket task domain type protocol).1.tcp := by
  have halloc := allocFd_tcp s task type protocol
  unfold sysSocket
  split
  · exact .refl _
  · rcases hr : s.allocFd task type protocol with ⟨s', _ | slot⟩ <;> rw [hr] at halloc
    · exact halloc ▸ .refl _
    · exact halloc ▸ .refl _

lemma leads_sysBind (fd family : Int) (port : UInt16) :
    s.tcp.Leads (s.sysBind task fd family port).1.tcp := by
  unfold sysBind
  cases s.entryForFd task fd with
  | none => exact .refl _
  | some slot =>
    dsimp only
    split
    · exact .refl _
    split
    · split
      · exact .outside _ _
      · exact .outside _ _
    · exact .refl _

lemma leads_sysListen (fd : Int) : s.tcp.Leads (s.sysListen task fd).1.tcp := by
  unfold sysListen
  cases s.entryForFd task fd with
  | none => exact .refl _
  | some slot =>
    dsimp only
    split
    · exact .refl _
    have hstep : s.tcp.Leads (netTcpListen s.tcp (s.taskSockets task slot).localPort).1 :=
      .step s.tcp (.listen _) id
    rcases hr : netTcpListen s.tcp (s.taskSockets task slot).localPort with ⟨t, _ | i⟩ <;>
      rw [hr] at hstep
    · exact hstep
    · exact hstep

lemma leads_sysAccept (fd : Int) : s.tcp.Leads (s.sysAccept task fd).1.tcp := by
  unfold sysAccept
  cases s.entryForFd task fd with
  | none => exact .refl _
  | some slot =>
    dsimp only
    split
    · exact .refl _
    split
    · exact .refl _
    have hstep : s.tcp.Leads (netTcpAccept s.tcp (s.taskSockets task slot).localPort).1 :=
      .step s.tcp (.accept _) id
    rcases hr : netTcpAccept s.tcp (s.taskSockets task slot).localPort with
      ⟨t, _ | ⟨i, peerIp, peerPort⟩⟩ <;> rw [hr] at hstep
    · exact hstep
    · dsimp only at hstep ⊢
      have halloc := allocFd_tcp (s.withTcp t) task nsSockStream 0
      rcases hfd : (s.withTcp t).allocFd task nsSockStream 0 with ⟨s', _ | child⟩ <;>
        rw [hfd] at halloc
      · have hsame : s'.tcp = t := halloc
        rw [← hsame] at hstep
        exact hstep.trans (.step s'.tcp (.close i) id)
      · have hsame : s'.tcp = t := halloc
        rw [← hsame] at hstep
        exact hstep

end

lemma Uses.leads {s s' : Sockets} (h : Uses s s') : s.tcp.Leads s'.tcp := by
  induction h with
  | refl | entry => exact .refl _
  | net => exact .outside _ _
  | send s i data => exact .step s.tcp (.send i data) id
  | recv s i maxLen => exact .step s.tcp (.recv i maxLen) id
  | close s i => exact .step s.tcp (.close i) id
  | trans _ _ ih ih' => exact ih.trans ih'

lemma leads_sysClose (s : Sockets) (task : Fin 8) (fd : Int) :
    s.tcp.Leads (s.sysClose task fd).1.tcp := by
  unfold sysClose
  cases s.entryForFd task fd with
  | none => exact .refl _
  | some slot => exact leads_closeEntry s task slot

/-- The port from which a socket connects: its own, or the one that all the sockets of its task
share. -/
def connectPort (e : NsSocketEntry) (task : Fin 8) : UInt16 :=
  if e.bound then e.localPort else UInt16.ofNat (40000 + task.val)

/-- The call of `net_tcp_connect` that `SYS_CONNECT` makes. -/
def connectOp (s : Sockets) (task : Fin 8) (fd family : Int) (ip : UInt32) (port : UInt16) :
    Option TcpOp :=
  (s.entryForFd task fd).bind fun slot =>
    let e := s.taskSockets task slot
    if (family ≠ nsAfInet ∨ port = 0 ∨ ip = 0) ∨ e.type = nsSockDgram then none
    else some (.connect ip port (connectPort e task))

lemma tcp_connectRound (s : Sockets) (task : Fin 8) (w : Connecting) :
    (s.connectRound task w).1.tcp = s.tcp := by
  unfold connectRound
  split
  · rfl
  split <;> rfl

lemma tcp_wake (s : Sockets) (task : Fin 8) : (s.wake task).1.tcp = s.tcp := by
  unfold wake
  cases s.connecting task with
  | none => rfl
  | some w => exact tcp_connectRound s task w

lemma tcp_sysConnect (s : Sockets) (task : Fin 8) (fd family : Int) (ip : UInt32) (port : UInt16) :
    (s.sysConnect task fd family ip port).1.tcp =
      match s.connectOp task fd family ip port with
      | none => s.tcp
      | some op => (s.tcp.step op).1 := by
  unfold sysConnect connectOp
  cases s.entryForFd task fd with
  | none => rfl
  | some slot =>
    rw [Option.bind_some]
    dsimp only
    by_cases hargs : family ≠ nsAfInet ∨ port = 0 ∨ ip = 0
    · rw [if_pos hargs, if_pos (Or.inl hargs)]
    by_cases htype : (s.taskSockets task slot).type = nsSockDgram
    · rw [if_neg hargs, if_pos htype, if_pos (Or.inr htype)]
      rfl
    rw [if_neg hargs, if_neg htype, if_neg (not_or.2 ⟨hargs, htype⟩)]
    have hport : (if (s.taskSockets task slot).bound = true then s.taskSockets task slot
        else { s.taskSockets task slot with
          bound := true
          localPort := UInt16.ofNat (40000 + task.val) }).localPort =
        connectPort (s.taskSockets task slot) task := by
      unfold connectPort
      split
      · rfl
      · rfl
    rw [hport]
    dsimp only [Tcp.step]
    rcases netTcpConnect s.tcp ip port (connectPort (s.taskSockets task slot) task) with ⟨t, _ | i⟩
    · rfl
    · dsimp only
      rw [apply_ite Prod.fst, apply_ite Sockets.tcp, tcp_connectRound, ite_self]
      rfl

lemma leads_step (s : Sockets) (o : SocketOp) (h : ∀ task fd family ip port,
    o ≠ .call task (.connect fd family ip port)) : s.tcp.Leads (s.step o).1.tcp := by
  cases o with
  | frame bytes =>
    simp only [step, withTcp_tcp, handleFrame]
    have hnet := Tcp.Leads.outside s.tcp (netHandleEthFrame s.tcp.net bytes)
    cases segmentOf s.tcp.net bytes with
    | none => exact hnet
    | some d => exact hnet.trans (.step _ (.segment d.srcIp d.dstIp d.payload) id)
  | poll => exact .step s.tcp .poll id
  | clock tick => exact .outside _ _
  | schedulerTick => exact .refl _
  | wake task =>
    rw [step, tcp_wake]
    exact .refl _
  | call task c =>
    rw [step]
    split
    · exact .refl _
    cases c with
    | socket domain type protocol => exact leads_sysSocket s task domain type protocol
    | bind fd family port => exact leads_sysBind s task fd family port
    | listen fd => exact leads_sysListen s task fd
    | accept fd => exact leads_sysAccept s task fd
    | connect fd family ip port => exact absurd rfl (h task fd family ip port)
    | close fd => exact leads_sysClose s task fd
    | exit =>
      simp only [call, setConnecting_tcp]
      exact leads_closeAllForTask s task
    | _ => exact (uses_call (by trivial) s task).leads

end Sockets

/-! ### The whole stack -/

/-- A call of a task, a frame that arrives, the timer, or a call of TCP from inside the kernel. -/
inductive StackOp where
  | socket (o : SocketOp)
  | tcp (o : TcpOp)

namespace Sockets

def stackStep (s : Sockets) : StackOp → Sockets × (Option SockAnswer ⊕ TcpAnswer)
  | .socket o => ((s.step o).1, .inl (s.step o).2)
  | .tcp o => (s.withTcp (s.tcp.step o).1, .inr (s.tcp.step o).2)

/-- The call of `net_tcp_connect` that a step makes. -/
def connects (s : Sockets) : StackOp → Option TcpOp
  | .socket (.call task (.connect fd family ip port)) =>
    if (s.connecting task).isSome then none else s.connectOp task fd family ip port
  | .socket _ => none
  | .tcp (.connect dstIp dstPort srcPort) => some (.connect dstIp dstPort srcPort)
  | .tcp _ => none

/-- No step connects from a port to where a connection from this port leads already. -/
def ConnectsNew (s : Sockets) (o : StackOp) : Prop := ∀ op ∈ s.connects o, s.tcp.ConnectsNew op

lemma stackStep_cases (s : Sockets) (o : StackOp) :
    (s.connects o = none ∧ s.tcp.Leads (s.stackStep o).1.tcp) ∨
      ∃ op, s.connects o = some op ∧ (s.stackStep o).1.tcp = (s.tcp.step op).1 := by
  cases o with
  | tcp op =>
    have htcp : (s.stackStep (.tcp op)).1.tcp = (s.tcp.step op).1 := rfl
    rw [htcp]
    cases op with
    | connect dstIp dstPort srcPort => exact Or.inr ⟨_, rfl, rfl⟩
    | _ => exact Or.inl ⟨rfl, .step s.tcp _ id⟩
  | socket o =>
    by_cases h : ∃ task fd family ip port, o = .call task (.connect fd family ip port)
    · obtain ⟨task, fd, family, ip, port, rfl⟩ := h
      by_cases hwait : (s.connecting task).isSome
      · have hsame : (s.stackStep (.socket (.call task (.connect fd family ip port)))).1 = s := by
          simp only [stackStep, step, isWaiting, hwait, if_true]
        rw [hsame]
        exact Or.inl ⟨if_pos hwait, .refl _⟩
      have hstep : (s.stackStep (.socket (.call task (.connect fd family ip port)))).1.tcp =
          (s.sysConnect task fd family ip port).1.tcp := by
        simp only [stackStep, step, isWaiting, hwait, Bool.false_eq_true, if_false, call]
      have htcp := tcp_sysConnect s task fd family ip port
      cases hop : s.connectOp task fd family ip port with
      | none =>
        rw [hop] at htcp
        refine Or.inl ⟨(if_neg hwait).trans hop, ?_⟩
        rw [hstep, htcp]
        exact .refl _
      | some op =>
        rw [hop] at htcp
        exact Or.inr ⟨op, (if_neg hwait).trans hop, hstep.trans htcp⟩
    · have hother : ∀ task fd family ip port, o ≠ .call task (.connect fd family ip port) :=
        fun task fd family ip port ho => h ⟨task, fd, family, ip, port, ho⟩
      refine Or.inl ⟨?_, leads_step s o hother⟩
      cases o with
      | call task c =>
        cases c with
        | connect fd family ip port => exact absurd rfl (hother task fd family ip port)
        | _ => rfl
      | _ => rfl

/-- When no entry is used at the start, TCP knows its connections apart all along a run if and only
if no step of the run connects twice from one port to one place. -/
theorem identified_iff {s : Sockets} (hs : ∀ i, (s.tcp.conns i).used = false) (os : List StackOp) :
    (∀ pre, pre <+: os → (Machine.run stackStep s pre).tcp.Identified) ↔
      Machine.Runs ConnectsNew stackStep s os := by
  refine Machine.runs_iff_forall_prefix (I := fun s : Sockets => s.tcp.Identified)
    (P := fun s : Sockets => s.tcp.Identified) (fun s o h hok => ?_) (fun _ h => h)
    (fun s o h h' => ?_) (Tcp.identified_of_unused hs) os
  · rcases stackStep_cases s o with ⟨-, hleads⟩ | ⟨op, hop, htcp⟩
    · exact hleads.identified h
    · rw [htcp]
      exact h.step (hok op hop)
  · rcases stackStep_cases s o with ⟨hop, -⟩ | ⟨op, hop, htcp⟩
    · intro op hop'
      rw [hop] at hop'
      cases hop'
    · rw [htcp] at h'
      intro op' hop'
      obtain rfl := Option.some.inj (hop.symm.trans hop')
      exact Tcp.connectsNew_of_identified h'

end Sockets

/-- Task 0 makes two sockets that do not block and connects them, the first one to port 80 of
10.0.2.16. -/
def twoSocketsRun (port : UInt16) : List StackOp :=
  [.socket (.call 0 (.socket 2 1 0)), .socket (.call 0 (.socket 2 1 0)),
    .socket (.call 0 (.fcntl 1024 2 nsONonblock)), .socket (.call 0 (.fcntl 1025 2 nsONonblock)),
    .socket (.call 0 (.connect 1024 2 0x0A000210 80)),
    .socket (.call 0 (.connect 1025 2 0x0A000210 port))]

/-- Two sockets connect to two ports. -/
theorem Sockets.identified_two_ports :
    (∀ pre, pre <+: twoSocketsRun 8080 →
      (Machine.run Sockets.stackStep Sockets.booted pre).tcp.Identified) ↔
        Machine.Runs Sockets.ConnectsNew Sockets.stackStep Sockets.booted (twoSocketsRun 8080) :=
  Sockets.identified_iff (fun _ => rfl) (twoSocketsRun 8080)

/-- Both sockets connect to port 80, and both from port 40000: there are two connections with one
address. -/
theorem Sockets.two_connections_one_address :
    ((Machine.run Sockets.stackStep Sockets.booted (twoSocketsRun 80)).tcp.conns 0).Live ∧
      ((Machine.run Sockets.stackStep Sockets.booted (twoSocketsRun 80)).tcp.conns 1).Live ∧
      ((Machine.run Sockets.stackStep Sockets.booted (twoSocketsRun 80)).tcp.conns 0).address =
        ((Machine.run Sockets.stackStep Sockets.booted (twoSocketsRun 80)).tcp.conns 1).address ∧
      ¬ (Machine.run Sockets.stackStep Sockets.booted (twoSocketsRun 80)).tcp.Identified := by
  have hfirst :
      ((Machine.run Sockets.stackStep Sockets.booted (twoSocketsRun 80)).tcp.conns 0).Live := by
    decide +kernel
  have hsecond :
      ((Machine.run Sockets.stackStep Sockets.booted (twoSocketsRun 80)).tcp.conns 1).Live := by
    decide +kernel
  have haddress :
      ((Machine.run Sockets.stackStep Sockets.booted (twoSocketsRun 80)).tcp.conns 0).address =
      ((Machine.run Sockets.stackStep Sockets.booted (twoSocketsRun 80)).tcp.conns 1).address := by
    decide +kernel
  refine ⟨hfirst, hsecond, haddress, fun h => ?_⟩
  have hsame := h.conn 0 1 hfirst hsecond haddress
  cases hsame

end NeuroSpark
