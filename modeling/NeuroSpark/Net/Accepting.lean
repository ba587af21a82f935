import NeuroSpark.Net.Addresses

/-!
# Whose connection is accepted

A connection that waits to be accepted refers to its listener by an index of the table. The index
stays when the listener is closed, and the next listener may get the same entry.
-/

namespace NeuroSpark

open Network

/-- A connection that `net_tcp_accept` returns, or may return when it is established. -/
def TcpConn.Pending (c : TcpConn) : Prop :=
  c.used = true ∧ c.listening = false ∧ c.accepted = false ∧
    (c.state = .synRcvd ∨ c.state = .established)

instance (c : TcpConn) : Decidable c.Pending := inferInstanceAs (Decidable (_ ∧ _ ∧ _ ∧ _))

instance : DecidablePred ConnEvent.IsNew
  | .listen _ => isTrue trivial
  | .start _ _ _ => isTrue trivial
  | .idle | .unlisten | .accept | .send _ _ | .fin _ | .drop | .retransmit _ | .hear _ _
  | .recv => isFalse id

/-- An entry of the table and the step that took it. The entry may be taken again, and then it is
another connection or another listener. -/
abbrev Incarnation := Fin 32 × ℕ

/-- The port that a request is for, and the listener that it finds. -/
def Tcp.requestAt (t : Tcp) : TcpOp → Option (UInt16 × Fin 32)
  | .segment srcIp dstIp tcp =>
    (tcpDecode srcIp dstIp tcp).bind fun g =>
      if g.has tcpFlagSyn then (tcpFindListener t g.dstPort).map fun listener =>
        (g.dstPort, listener)
      else none
  | _ => none

/-- The table, with the step that took each entry, the request that each connection comes from, and
the connections that were accepted. -/
structure AcceptState where
  tcp : Tcp
  steps : ℕ
  since : Fin 32 → ℕ
  request : Fin 32 → Option (UInt16 × Incarnation)
  returned : List Incarnation

namespace AcceptState

def start (t : Tcp) : AcceptState where
  tcp := t
  steps := 0
  since _ := 0
  request _ := none
  returned := []

/-- What an entry is now. -/
def now (s : AcceptState) (i : Fin 32) : Incarnation := (i, s.since i)

def step (s : AcceptState) (o : TcpOp) : AcceptState × TcpAnswer :=
  ({ tcp := (s.tcp.step o).1
     steps := s.steps + 1
     since := fun i => if (s.tcp.eventAt o i).IsNew then s.steps + 1 else s.since i
     request := fun i =>
      if (s.tcp.eventAt o i).IsNew then (s.tcp.requestAt o).map fun r => (r.1, s.now r.2)
      else s.request i
     returned :=
      match (s.tcp.step o).2 with
      | .accepted (some (i, _, _)) => s.now i :: s.returned
      | _ => s.returned }, (s.tcp.step o).2)

/-- A connection that is returned for a port has this port, comes from a request for this port at
the listener that has the port now, and has not been returned before. -/
def AcceptsOwn (s : AcceptState) : TcpOp → Prop
  | .accept port => ∀ i remoteIp remotePort,
      (netTcpAccept s.tcp port).2 = some (i, remoteIp, remotePort) →
        (s.tcp.conns i).localPort = port ∧
          (∃ listener, tcpFindListener s.tcp port = some listener ∧
            s.request i = some (port, s.now listener)) ∧
          s.now i ∉ s.returned
  | _ => True

/-- A listener does not take an entry to which a pending connection still refers. -/
def ListensClean (s : AcceptState) : TcpOp → Prop
  | .listen port => ∀ i, ¬ (port = 0 ∨ (tcpFindListener s.tcp port).isSome) →
      tcpFreeConn s.tcp = some i →
        ∀ j, (s.tcp.conns j).Pending → (s.tcp.conns j).parentListen ≠ some i
  | _ => True

end AcceptState

/-! ### What a connection comes to -/

lemma TcpConn.state_takeAck (c : TcpConn) (ack : UInt32) (flags : UInt8) :
    (tcpTakeAck c ack flags).state = c.state := by
  unfold tcpTakeAck
  split
  · rfl
  · rfl

lemma TcpConn.state_takePayload (c : TcpConn) (seq : UInt32) (payload : List UInt8) :
    (tcpTakePayload c seq payload).state = c.state := by
  obtain ⟨queue, hsame, -⟩ := tcpQueueRx_spec c payload
  unfold tcpTakePayload
  dsimp only
  rw [hsame]
  split_ifs
  · rfl
  · rfl
  · rfl

lemma TcpConn.state_takeFin (c : TcpConn) (g : TcpSegment) :
    (c.takeFin g).state = c.state ∨ (c.takeFin g).state = .closeWait := by
  unfold TcpConn.takeFin
  split
  · exact Or.inr rfl
  · exact Or.inl rfl

lemma TcpConn.hear_state (c : TcpConn) (lost : Bool) (g : TcpSegment) :
    (c.hear lost g).state = c.state ∨ (c.hear lost g).state = .closed ∨
      (c.hear lost g).state = .closeWait ∨
      ((c.state = .synSent ∨ c.state = .synRcvd) ∧ (c.hear lost g).state = .established) := by
  have hopen : ∀ c' : TcpConn, c'.state = c.state ∨ c'.state = .closeWait → c'.state = c.state ∨
      c'.state = .closed ∨ c'.state = .closeWait ∨
        ((c.state = .synSent ∨ c.state = .synRcvd) ∧ c'.state = .established) := by
    rintro c' (hsame | hwait)
    · exact Or.inl hsame
    · exact Or.inr (Or.inr (Or.inl hwait))
  have hestablished := TcpConn.hear_open_induction
    (P := fun c' => c'.state = c.state ∨ c'.state = .closeWait) lost
    (Or.inl (state_takeAck c g.ack g.flags))
    (fun c' h => (state_takePayload c' g.seq g.payload).symm ▸ h)
    (fun c' h => (state_takeFin c' g).elim (fun hs => hs.symm ▸ h) Or.inr)
  unfold TcpConn.hear
  split
  · exact Or.inr (Or.inl rfl)
  split
  · split
    · exact Or.inr (Or.inl rfl)
    split
    · exact Or.inl rfl
    · exact Or.inl rfl
  · rename_i hstate
    split
    · exact Or.inr (Or.inr (Or.inr ⟨Or.inl hstate, rfl⟩))
    · exact Or.inl rfl
  · rename_i hstate
    split
    · exact Or.inr (Or.inr (Or.inr ⟨Or.inr hstate, rfl⟩))
    · exact Or.inl rfl
  · exact hopen _ hestablished
  · exact hopen _ hestablished
  · exact Or.inl rfl
  · exact Or.inl rfl

/-- No step makes a connection pending that is not new, but connections that are asked for here. -/
lemma Tcp.state_step (t : Tcp) (o : TcpOp) (j : Fin 32) (hold : ¬ (t.eventAt o j).IsNew) :
    (((t.step o).1.conns j).state = .synSent → (t.conns j).state = .synSent) ∧
      (((t.step o).1.conns j).state = .synRcvd ∨ ((t.step o).1.conns j).state = .established →
        (t.conns j).state = .synSent ∨ (t.conns j).state = .synRcvd ∨
          (t.conns j).state = .established) := by
  have hcases : ((t.step o).1.conns j).state = (t.conns j).state ∨
      ((t.step o).1.conns j).state = .closed ∨ ((t.step o).1.conns j).state = .closing ∨
      ((t.step o).1.conns j).state = .closeWait ∨
      (((t.conns j).state = .synSent ∨ (t.conns j).state = .synRcvd) ∧
        ((t.step o).1.conns j).state = .established) := by
    rw [Tcp.step_conns]
    cases hevent : t.eventAt o j with
    | listen port =>
      rw [hevent] at hold
      exact absurd trivial hold
    | start n tick sent =>
      rw [hevent] at hold
      exact absurd trivial hold
    | fin tick => exact Or.inr (Or.inr (Or.inl rfl))
    | drop => exact Or.inr (Or.inl rfl)
    | hear lost g =>
      rcases TcpConn.hear_state (t.conns j) lost g with hsame | hclosed | hwait | hopen
      · exact Or.inl hsame
      · exact Or.inr (Or.inl hclosed)
      · exact Or.inr (Or.inr (Or.inr (Or.inl hwait)))
      · exact Or.inr (Or.inr (Or.inr (Or.inr hopen)))
    | recv =>
      unfold ConnEvent.apply
      dsimp only
      split
      · exact Or.inl rfl
      · exact Or.inl rfl
    | _ => exact Or.inl rfl
  rcases hcases with hsame | hclosed | hclosing | hwait | ⟨hopen, hestablished⟩
  · rw [hsame]
    exact ⟨id, Or.inr⟩
  · rw [hclosed]
    simp
  · rw [hclosing]
    simp
  · rw [hwait]
    simp
  · rw [hestablished]
    exact ⟨fun h => (by cases h), fun _ => hopen.imp_right Or.inl⟩

lemma netTcpAccept_some {t : Tcp} {port : UInt16} {i : Fin 32} {remoteIp : UInt32}
    {remotePort : UInt16} (h : (netTcpAccept t port).2 = some (i, remoteIp, remotePort)) :
    ∃ listener, tcpFindListener t port = some listener ∧ (t.conns i).Pending ∧
      (t.conns i).parentListen = some listener ∧ t.eventAt (.accept port) i = .accept := by
  unfold netTcpAccept at h
  unfold Tcp.eventAt
  dsimp only
  cases hlistener : tcpFindListener t port with
  | none =>
    rw [hlistener] at h
    cases h
  | some listener =>
    rw [hlistener] at h
    dsimp only at h
    cases hpending : tcpPending t listener with
    | none =>
      rw [hpending] at h
      cases h
    | some i' =>
      rw [hpending] at h
      cases h
      have htest := List.find?_some hpending
      simp only [Bool.and_eq_true, Bool.not_eq_true', beq_iff_eq] at htest
      obtain ⟨⟨⟨⟨hused, hlistening⟩, hparent⟩, hstate⟩, haccepted⟩ := htest
      refine ⟨listener, rfl, ⟨hused, hlistening, haccepted, Or.inr hstate⟩, hparent, ?_⟩
      rw [Option.bind_some, hpending, if_pos rfl]

lemma TcpConn.start_used {c : TcpConn} {n : TcpOpening} {tick : UInt32} {sent : Bool}
    (h : (c.start n tick sent).used = true) :
    (c.start n tick sent).accepted = n.accepted ∧ (c.start n tick sent).state = n.state := by
  cases sent with
  | false => cases h
  | true => exact ⟨rfl, rfl⟩

lemma Tcp.not_isNew_of_used {t : Tcp} {i : Fin 32} (o : TcpOp) (h : (t.conns i).used = true) :
    ¬ (t.eventAt o i).IsNew := by
  intro hnew
  have hunused := tcpFreeConn_spec (Tcp.eventAt_new hnew).1
  rw [h] at hunused
  cases hunused

/-! ### Pending connections and their listeners -/

namespace AcceptState

/-- The connection was asked for at a listener, and it still refers to this one if to any. -/
def Belongs (s : AcceptState) (j : Fin 32) : Prop :=
  ∃ listener n, (s.tcp.conns j).parentListen = some listener ∧
    s.request j = some ((s.tcp.conns j).localPort, listener, n) ∧
    ((s.tcp.conns listener).Listens → n = s.since listener ∧
      (s.tcp.conns listener).localPort = (s.tcp.conns j).localPort)

structure Sound (s : AcceptState) : Prop where
  pending : ∀ j, (s.tcp.conns j).Pending → s.Belongs j
  asked : ∀ j, (s.tcp.conns j).used = true → (s.tcp.conns j).state = .synSent →
    (s.tcp.conns j).accepted = true
  since : ∀ i, s.since i ≤ s.steps
  returned : ∀ i n, (i, n) ∈ s.returned → n ≤ s.steps ∧
    (n = s.since i → (s.tcp.conns i).accepted = true)

variable {s : AcceptState} {o : TcpOp} {i : Fin 32}

lemma sound_start {t : Tcp} (h : ∀ i, (t.conns i).used = false) : (start t).Sound where
  pending j hpending := absurd ((h j).symm.trans hpending.1) (by decide)
  asked j hused _ := absurd ((h j).symm.trans hused) (by decide)
  since _ := le_rfl
  returned _ _ hmem := by cases hmem

lemma step_tcp (s : AcceptState) (o : TcpOp) : (s.step o).1.tcp = (s.tcp.step o).1 := rfl

lemma step_since_of_old (h : ¬ (s.tcp.eventAt o i).IsNew) :
    (s.step o).1.since i = s.since i ∧ (s.step o).1.request i = s.request i := ⟨if_neg h, if_neg h⟩

lemma step_since_of_new (h : (s.tcp.eventAt o i).IsNew) : (s.step o).1.since i = s.steps + 1 ∧
      (s.step o).1.request i = (s.tcp.requestAt o).map fun r => (r.1, s.now r.2) :=
  ⟨if_pos h, if_pos h⟩

lemma listens_of_step {j listener : Fin 32} (hclean : s.ListensClean o)
    (hpending : (s.tcp.conns j).Pending) (hparent : (s.tcp.conns j).parentListen = some listener)
    (hlistens : ((s.step o).1.tcp.conns listener).Listens) :
    ¬ (s.tcp.eventAt o listener).IsNew := by
  intro hnew
  obtain ⟨hfree, hcases⟩ := Tcp.eventAt_new hnew
  rw [step_tcp, Tcp.step_conns] at hlistens
  rcases hcases with ⟨port, rfl, hnone, hevent⟩ | ⟨dstIp, dstPort, srcPort, -, -, hevent⟩ |
    ⟨srcIp, dstIp, tcp, g, listener', -, -, -, -, -, hevent⟩
  · by_cases hzero : port = 0
    · unfold Tcp.eventAt at hevent
      dsimp only at hevent
      rw [if_neg fun h => h.1 (Or.inl hzero)] at hevent
      cases hevent
    · refine hclean listener (fun h => ?_) hfree j hpending hparent
      rcases h with h | h
      · exact hzero h
      · rw [hnone] at h
        cases h
  · rw [hevent, TcpConn.Listens, ConnEvent.apply, (TcpConn.start_address ..).2] at hlistens
    cases hlistens.2
  · rw [hevent, TcpConn.Listens, ConnEvent.apply, (TcpConn.start_address ..).2] at hlistens
    cases hlistens.2

lemma Sound.step_pending_old (h : s.Sound) (hclean : s.ListensClean o) {j : Fin 32}
    (hold : ¬ (s.tcp.eventAt o j).IsNew) (hpending : ((s.step o).1.tcp.conns j).Pending) :
    (s.step o).1.Belongs j := by
  have hfollows := s.tcp.follows_step o j hold
  obtain ⟨hsent, hopen⟩ := s.tcp.state_step o j hold
  obtain ⟨hused, hlistening, haccepted, hstate⟩ := hpending
  rw [step_tcp] at hused hlistening haccepted hstate
  have hnot : ¬ (s.tcp.conns j).accepted = true := fun h => by
    rw [hfollows.accepted h] at haccepted
    cases haccepted
  have hbefore : (s.tcp.conns j).Pending := by
    refine ⟨hfollows.used hused, hfollows.listening.symm.trans hlistening,
      eq_false_of_ne_true hnot, ?_⟩
    exact (hopen hstate).resolve_left fun hasked => hnot (h.asked j (hfollows.used hused) hasked)
  have hport : ((s.tcp.step o).1.conns j).localPort = (s.tcp.conns j).localPort :=
    congrArg Prod.snd hfollows.address
  obtain ⟨listener, n, hparent, hrequest, hlistener⟩ := h.pending j hbefore
  refine ⟨listener, n, hfollows.parentListen.trans hparent, ?_, fun hlistens => ?_⟩
  · rw [(step_since_of_old hold).2, step_tcp, hport, hrequest]
  · have hkept := listens_of_step hclean hbefore hparent hlistens
    have hlfollows := s.tcp.follows_step o listener hkept
    obtain ⟨hn, hsame⟩ := hlistener (hlfollows.listens hlistens)
    rw [(step_since_of_old hkept).1, step_tcp, hport, ← hsame]
    exact ⟨hn, congrArg Prod.snd hlfollows.address⟩

lemma Sound.step_pending_new {j : Fin 32} (hnew : (s.tcp.eventAt o j).IsNew)
    (hpending : ((s.step o).1.tcp.conns j).Pending) :
    (s.step o).1.Belongs j := by
  obtain ⟨hfree, hcases⟩ := Tcp.eventAt_new hnew
  have hrequest := (step_since_of_new hnew).2
  have hstep : (s.step o).1.tcp.conns j = (s.tcp.eventAt o j).apply (s.tcp.conns j) :=
    Tcp.step_conns s.tcp o j
  rcases hcases with ⟨port, rfl, -, hevent⟩ | ⟨dstIp, dstPort, srcPort, rfl, -, hevent⟩ |
    ⟨srcIp, dstIp, tcp, g, listener, rfl, hg, -, hlistener, hsyn, hevent⟩
  · rw [hstep, hevent] at hpending
    cases hpending.2.1
  · rw [hstep, hevent] at hpending
    have haccepted : (ConnEvent.apply (.start (tcpConnecting s.tcp dstIp dstPort srcPort)
        s.tcp.net.tick s.tcp.net.CardReady) (s.tcp.conns j)).accepted = true := by
      unfold ConnEvent.apply TcpConn.start
      dsimp only
      split_ifs <;> rfl
    rw [TcpConn.Pending, haccepted] at hpending
    cases hpending.2.2.1
  · have hchild : ((s.step (.segment srcIp dstIp tcp)).1.tcp.conns j).parentListen = some listener ∧
        ((s.step (.segment srcIp dstIp tcp)).1.tcp.conns j).localPort = g.dstPort := by
      rw [hstep, hevent]
      unfold ConnEvent.apply TcpConn.start
      dsimp only
      split_ifs
      · exact ⟨rfl, rfl⟩
      · exact ⟨rfl, rfl⟩
    have hasked : s.tcp.requestAt (.segment srcIp dstIp tcp) = some (g.dstPort, listener) := by
      unfold Tcp.requestAt
      simp only [hg, Option.bind_some, hsyn, if_true, hlistener, Option.map_some]
    obtain ⟨hlistens, hport⟩ := tcpFindListener_some hlistener
    have hother := Tcp.not_isNew_of_used (.segment srcIp dstIp tcp) hlistens.1
    refine ⟨listener, s.since listener, hchild.1, ?_, fun _ => ?_⟩
    · rw [hrequest, hasked, hchild.2]
      rfl
    · have hlfollows := s.tcp.follows_step _ listener hother
      rw [(step_since_of_old hother).1, hchild.2, ← hport]
      exact ⟨rfl, congrArg Prod.snd hlfollows.address⟩

lemma mem_returned_step {x : Incarnation} (h : x ∈ (s.step o).1.returned) : x ∈ s.returned ∨
    ∃ port i remoteIp remotePort, o = .accept port ∧
      (netTcpAccept s.tcp port).2 = some (i, remoteIp, remotePort) ∧ x = s.now i := by
  cases o with
  | accept port =>
    simp only [step, Tcp.step] at h
    rcases hr : (netTcpAccept s.tcp port).2 with _ | ⟨i, remoteIp, remotePort⟩
    · rw [hr] at h
      exact Or.inl h
    · rw [hr] at h
      rcases List.mem_cons.1 h with hx | hold
      · exact Or.inr ⟨port, i, remoteIp, remotePort, rfl, hr, hx⟩
      · exact Or.inl hold
  | _ =>
    simp only [step, Tcp.step] at h
    exact Or.inl h

lemma Sound.step_returned (h : s.Sound) {n : ℕ} (hmem : (i, n) ∈ (s.step o).1.returned) :
    n ≤ (s.step o).1.steps ∧
      (n = (s.step o).1.since i → ((s.step o).1.tcp.conns i).accepted = true) := by
  rcases mem_returned_step hmem with hold | ⟨port, i', remoteIp, remotePort, rfl, hr, hx⟩
  · obtain ⟨hle, haccepted⟩ := h.returned i n hold
    refine ⟨Nat.le_succ_of_le hle, fun hn => ?_⟩
    by_cases hnew : (s.tcp.eventAt o i).IsNew
    · rw [(step_since_of_new hnew).1] at hn
      omega
    · rw [(step_since_of_old hnew).1] at hn
      exact (s.tcp.follows_step o i hnew).accepted (haccepted hn)
  · obtain ⟨rfl, rfl⟩ := Prod.mk.inj hx
    obtain ⟨listener, -, -, -, hevent⟩ := netTcpAccept_some hr
    refine ⟨Nat.le_succ_of_le (h.since i), fun _ => ?_⟩
    rw [step_tcp, Tcp.step_conns, hevent]
    rfl

lemma Sound.step (h : s.Sound) (hclean : s.ListensClean o) : (s.step o).1.Sound where
  pending j hpending := by
    by_cases hnew : (s.tcp.eventAt o j).IsNew
    · exact Sound.step_pending_new hnew hpending
    · exact h.step_pending_old hclean hnew hpending
  asked j hused hstate := by
    by_cases hnew : (s.tcp.eventAt o j).IsNew
    · rw [step_tcp, Tcp.step_conns] at hused hstate ⊢
      rcases (Tcp.eventAt_new hnew).2 with ⟨port, -, -, hevent⟩ |
        ⟨dstIp, dstPort, srcPort, -, -, hevent⟩ |
          ⟨srcIp, dstIp, tcp, g, listener, -, -, -, -, -, hevent⟩
      · rw [hevent]
        rfl
      · rw [hevent] at hused ⊢
        rw [ConnEvent.apply, (TcpConn.start_used hused).1]
        rfl
      · rw [hevent] at hused hstate
        rw [ConnEvent.apply, (TcpConn.start_used hused).2] at hstate
        cases hstate
    · have hfollows := s.tcp.follows_step o j hnew
      exact hfollows.accepted (h.asked j (hfollows.used hused)
        ((s.tcp.state_step o j hnew).1 hstate))
  since i := by
    by_cases hnew : (s.tcp.eventAt o i).IsNew
    · rw [(step_since_of_new hnew).1]
      rfl
    · rw [(step_since_of_old hnew).1]
      exact Nat.le_succ_of_le (h.since i)
  returned i n hmem := h.step_returned hmem

lemma Sound.acceptsOwn (h : s.Sound) (o : TcpOp) : s.AcceptsOwn o := by
  cases o with
  | accept port =>
    intro i remoteIp remotePort hr
    obtain ⟨listener, hlistener, hpending, hparent, -⟩ := netTcpAccept_some hr
    obtain ⟨hlistens, hport⟩ := tcpFindListener_some hlistener
    obtain ⟨listener', n, hparent', hrequest, hbelongs⟩ := h.pending i hpending
    obtain rfl := Option.some.inj (hparent.symm.trans hparent')
    obtain ⟨hn, hsame⟩ := hbelongs hlistens
    rw [hport] at hsame
    rw [← hsame, hn] at hrequest
    refine ⟨hsame.symm, ⟨listener, hlistener, hrequest⟩, fun hmem => ?_⟩
    have haccepted := (h.returned i _ hmem).2 rfl
    rw [hpending.2.2.1] at haccepted
    cases haccepted
  | _ => trivial

/-- As long as no listener takes an entry to which a pending connection refers, what
`net_tcp_accept` returns for a port was asked for at the present listener of this port and not
returned before. -/
theorem accepts_own_run {t : Tcp} (h : ∀ i, (t.conns i).used = false) {os : List TcpOp}
    (hclean : Machine.Runs ListensClean step (start t) os) :
    Machine.Runs AcceptsOwn step (start t) os :=
  Machine.runs_of_invariant (fun _ _ hs hok => hs.step hok) (fun _ o hs _ => hs.acceptsOwn o)
    (sound_start h) hclean

end AcceptState

/-- A segment from port 5000 of 10.0.2.16 to port 80. -/
def segmentTo80 (seq ack : UInt32) (flags : UInt8) : List UInt8 :=
  tcpSegment 0x0A000210 0x0A00020F 5000 80 seq ack flags []

/-- A listener at port 80, and a connection to it that is established. -/
def pendingRun : List TcpOp :=
  [.listen 80, .segment 0x0A000210 0x0A00020F (segmentTo80 5000 0 tcpFlagSyn),
    .segment 0x0A000210 0x0A00020F (segmentTo80 5001 0x10203041 tcpFlagAck)]

/-- A connection waits at port 80 and is accepted. -/
theorem AcceptState.accepts_own_pending :
    Machine.Runs AcceptsOwn step (start Sockets.booted.tcp) (pendingRun ++ [.accept 80]) := by
  refine accepts_own_run (fun _ => rfl)
    ⟨fun i _ _ j hpending => ?_, trivial, trivial, trivial, trivial⟩
  cases hpending.1

/-- The listener is closed, another one for port 8080 takes its entry, and gets the connection to
port 80. -/
theorem AcceptState.accepts_pending_of_closed :
    (netTcpAccept (Machine.run step (start Sockets.booted.tcp)
        (pendingRun ++ [.unlisten 80, .listen 8080])).tcp 8080).2 = some (1, 0x0A000210, 5000) ∧
      ((Machine.run step (start Sockets.booted.tcp)
        (pendingRun ++ [.unlisten 80, .listen 8080])).tcp.conns 1).localPort = 80 ∧
      ¬ Machine.Runs AcceptsOwn step (start Sockets.booted.tcp)
        ((pendingRun ++ [.unlisten 80, .listen 8080]) ++ [.accept 8080]) := by
  have haccept : (netTcpAccept (Machine.run step (start Sockets.booted.tcp)
      (pendingRun ++ [.unlisten 80, .listen 8080])).tcp 8080).2 = some (1, 0x0A000210, 5000) := by
    decide +kernel
  have hport : ((Machine.run step (start Sockets.booted.tcp)
      (pendingRun ++ [.unlisten 80, .listen 8080])).tcp.conns 1).localPort = 80 := by
    decide +kernel
  refine ⟨haccept, hport, fun h => ?_⟩
  rw [Machine.runs_append] at h
  have hown := (h.2.1 1 0x0A000210 5000 haccept).1
  rw [hport] at hown
  exact absurd hown (by decide)

end NeuroSpark
