import NeuroSpark.Lib.Sequence
import NeuroSpark.Net.Accepting

/-!
# What was sent and is not acknowledged

The sending side of a connection knows two sequence numbers and the last segment. Beside it stands a
ledger of all that was sent and is not acknowledged, kept by what is sent and by the
acknowledgements that are within what was sent.
-/

namespace NeuroSpark

open Network Sequence

/-! ### The sending side -/

/-- The fields of a connection that are about what it sends. -/
structure TcpSender where
  una : UInt32
  nxt : UInt32
  waitingAck : Bool
  lastSeq : UInt32
  lastFlags : UInt8
  lastData : List UInt8

def TcpConn.sender (c : TcpConn) : TcpSender :=
  ⟨c.sndUna, c.sndNxt, c.waitingAck, c.lastTxSeq, c.lastTxFlags, c.lastTxData⟩

namespace TcpSender

/-- A connection that has sent its SYN. -/
def opened (iss : UInt32) (flags : UInt8) : TcpSender := ⟨iss, iss + 1, true, iss, flags, []⟩

/-- A segment was sent and is kept. -/
def sent (p : TcpSender) (flags : UInt8) (payload : List UInt8) : TcpSender where
  una := p.una
  nxt := (if hasFlag flags tcpFlagSyn || hasFlag flags tcpFlagFin then p.nxt + 1 else p.nxt) +
    UInt32.ofNat payload.length
  waitingAck := hasFlag flags tcpFlagSyn || hasFlag flags tcpFlagFin || !payload.isEmpty
  lastSeq := p.nxt
  lastFlags := flags
  lastData := payload

/-- An acknowledgement was taken. -/
def acked (p : TcpSender) (ack : UInt32) : TcpSender :=
  { p with una := ack, waitingAck := if ack ≥ p.nxt then false else p.waitingAck }

/-- The number of sequence numbers from `snd_una` on to `snd_nxt`. -/
def outstanding (p : TcpSender) : ℕ := ahead p.una p.nxt

lemma sent_data (p : TcpSender) {payload : List UInt8} (hne : payload ≠ []) :
    p.sent (tcpFlagAck ||| tcpFlagPsh) payload =
      ⟨p.una, p.nxt + UInt32.ofNat payload.length, true, p.nxt, tcpFlagAck ||| tcpFlagPsh,
        payload⟩ := by
  cases payload with
  | nil => exact absurd rfl hne
  | cons b payload => rfl

lemma sent_fin (p : TcpSender) : p.sent (tcpFlagFin ||| tcpFlagAck) [] =
    ⟨p.una, p.nxt + 1, true, p.nxt, tcpFlagFin ||| tcpFlagAck, []⟩ := by
  have hfin : hasFlag (tcpFlagFin ||| tcpFlagAck) tcpFlagFin = true := by decide
  have hzero : p.nxt + 1 + UInt32.ofNat ([] : List UInt8).length = p.nxt + 1 := UInt32.add_zero _
  unfold sent
  simp only [hfin, Bool.or_true, if_true, Bool.true_or, hzero]

end TcpSender

namespace TcpConn

variable {c : TcpConn} {lost : Bool} {g : TcpSegment}

/-- The connection takes the acknowledgement of a segment. -/
def TakesAck (c : TcpConn) (g : TcpSegment) : Prop :=
  g.has tcpFlagAck = true ∧
    match c.state with
    | .established | .closeWait => g.ack > c.sndUna
    | .synSent => g.has tcpFlagSyn = true ∧ g.ack = c.sndNxt
    | .synRcvd => g.ack = c.sndNxt
    | _ => False

/-- The segment is the end of the connection. -/
def Ends (c : TcpConn) (g : TcpSegment) : Prop :=
  g.has tcpFlagRst = true ∨ (c.state = .closing ∧ g.has tcpFlagAck = true ∧ g.ack ≥ c.sndNxt)

lemma hear_of_ends (h : c.Ends g) (lost : Bool) :
    (c.hear lost g).used = false ∧ (c.hear lost g).state = .closed := by
  unfold hear
  rcases h with hrst | ⟨hstate, hack, hge⟩
  · rw [if_pos hrst]
    exact ⟨rfl, rfl⟩
  · split
    · exact ⟨rfl, rfl⟩
    · rw [hstate]
      simp [hack, hge]

lemma sender_takeAck (c : TcpConn) (ack : UInt32) (flags : UInt8) :
    (tcpTakeAck c ack flags).sender =
      if hasFlag flags tcpFlagAck ∧ ack > c.sndUna then c.sender.acked ack else c.sender := by
  unfold tcpTakeAck
  by_cases h : hasFlag flags tcpFlagAck = true ∧ ack > c.sndUna
  · rw [if_pos h, if_pos h]
    rfl
  · rw [if_neg h, if_neg h]

lemma sender_takePayload (c : TcpConn) (seq : UInt32) (payload : List UInt8) :
    (tcpTakePayload c seq payload).sender = c.sender := by
  obtain ⟨queue, hsame, -⟩ := tcpQueueRx_spec c payload
  unfold tcpTakePayload
  dsimp only
  rw [hsame]
  split_ifs
  · rfl
  · rfl
  · rfl

lemma sender_takeFin (c : TcpConn) (g : TcpSegment) : (c.takeFin g).sender = c.sender := by
  unfold takeFin
  split
  · rfl
  · rfl

/-- What a segment does to the sending side and to the state. -/
lemma sender_hear (h : ¬ c.Ends g) (lost : Bool) :
    (c.TakesAck g → (c.hear lost g).sender = c.sender.acked g.ack ∧
      ((c.hear lost g).state = .established ∨ (c.hear lost g).state = .closeWait)) ∧
    (¬ c.TakesAck g → (c.hear lost g).sender = c.sender ∧
      ((c.hear lost g).state = c.state ∨ (c.hear lost g).state = .closeWait)) := by
  obtain ⟨hrst, hdone⟩ := not_or.1 h
  have hopen := hear_open_induction
    (P := fun c' => c'.sender = (tcpTakeAck c g.ack g.flags).sender ∧
      (c'.state = c.state ∨ c'.state = .closeWait))
    (c := c) lost (g := g) ⟨rfl, Or.inl (state_takeAck c g.ack g.flags)⟩
    (fun c' h => ⟨(sender_takePayload c' g.seq g.payload).trans h.1,
      (state_takePayload c' g.seq g.payload).symm ▸ h.2⟩)
    (fun c' h => ⟨(sender_takeFin c' g).trans h.1,
      (state_takeFin c' g).elim (fun hs => hs.symm ▸ h.2) Or.inr⟩)
  rw [sender_takeAck] at hopen
  unfold hear TakesAck
  rw [if_neg hrst]
  cases hstate : c.state with
  | closing =>
    have hnot : ¬ (g.has tcpFlagAck && decide (g.ack ≥ c.sndNxt)) = true := fun h => by
      rw [Bool.and_eq_true, decide_eq_true_iff] at h
      exact hdone ⟨hstate, h⟩
    dsimp only
    rw [if_neg hnot]
    refine ⟨fun h => h.2.elim, fun _ => ?_⟩
    split
    · exact ⟨rfl, Or.inl rfl⟩
    · exact ⟨rfl, Or.inl hstate⟩
  | synSent =>
    dsimp only
    refine ⟨fun ⟨hack, hsyn, hnxt⟩ => ?_, fun hnot => ?_⟩
    · rw [if_pos ⟨hsyn, hack, hnxt⟩]
      refine ⟨?_, Or.inl rfl⟩
      simp only [sender, TcpSender.acked, hnxt, ge_iff_le, UInt32.le_refl, if_true]
    · rw [if_neg fun h => hnot ⟨h.2.1, h.1, h.2.2⟩]
      exact ⟨rfl, Or.inl hstate⟩
  | synRcvd =>
    dsimp only
    refine ⟨fun ⟨hack, hnxt⟩ => ?_, fun hnot => ?_⟩
    · rw [if_pos ⟨hack, hnxt⟩]
      refine ⟨?_, Or.inl rfl⟩
      simp only [sender, TcpSender.acked, hnxt, ge_iff_le, UInt32.le_refl, if_true]
    · rw [if_neg fun h => hnot ⟨h.1, h.2⟩]
      exact ⟨rfl, Or.inl hstate⟩
  | established =>
    rw [hstate] at hopen
    exact ⟨fun h => ⟨hopen.1.trans (if_pos h), hopen.2⟩,
      fun h => ⟨hopen.1.trans (if_neg h), hopen.2⟩⟩
  | closeWait =>
    rw [hstate] at hopen
    exact ⟨fun h => ⟨hopen.1.trans (if_pos h), hopen.2.elim Or.inr Or.inr⟩,
      fun h => ⟨hopen.1.trans (if_neg h), hopen.2⟩⟩
  | closed | listen => exact ⟨fun h => h.2.elim, fun _ => ⟨rfl, Or.inl hstate⟩⟩

/-- A segment that is not the end of the connection leaves it live. -/
lemma live_hear (h : ¬ c.Ends g) (lost : Bool) (hlive : c.Live) : (c.hear lost g).Live := by
  obtain ⟨hrst, hdone⟩ := not_or.1 h
  have hsame : ∀ {c' : TcpConn}, c'.identity = c.identity →
      c'.used = true ∧ c'.listening = false := by
    intro c' heq
    simp only [identity, Prod.mk.injEq] at heq
    exact ⟨heq.2.2.2.1.trans hlive.1, heq.2.1.trans hlive.2.1⟩
  have hopen := hear_open_induction
    (P := fun c' => c'.identity = c.identity ∧ (c'.state = c.state ∨ c'.state = .closeWait))
    lost (g := g) ⟨identity_takeAck c g.ack g.flags, Or.inl (state_takeAck c g.ack g.flags)⟩
    (fun c' h => ⟨(identity_takePayload c' g.seq g.payload).trans h.1,
      (state_takePayload c' g.seq g.payload).symm ▸ h.2⟩)
    (fun c' h => ⟨(identity_takeFin c' g).trans h.1,
      (state_takeFin c' g).elim (fun hs => hs.symm ▸ h.2) Or.inr⟩)
  unfold hear
  rw [if_neg hrst]
  cases hstate : c.state with
  | closing =>
    have hnot : ¬ (g.has tcpFlagAck && decide (g.ack ≥ c.sndNxt)) = true := fun h => by
      rw [Bool.and_eq_true, decide_eq_true_iff] at h
      exact hdone ⟨hstate, h⟩
    dsimp only
    rw [if_neg hnot]
    split
    · exact ⟨hlive.1, hlive.2.1, fun h => (by cases h)⟩
    · exact hlive
  | synSent =>
    dsimp only
    split
    · exact ⟨hlive.1, hlive.2.1, fun h => (by cases h)⟩
    · exact hlive
  | synRcvd =>
    dsimp only
    split
    · exact ⟨hlive.1, hlive.2.1, fun h => (by cases h)⟩
    · exact hlive
  | established =>
    rw [hstate] at hopen
    refine ⟨(hsame hopen.1).1, (hsame hopen.1).2, fun hclosed => ?_⟩
    rcases hopen.2 with h | h <;> exact absurd (h.symm.trans hclosed) (by decide)
  | closeWait =>
    rw [hstate] at hopen
    refine ⟨(hsame hopen.1).1, (hsame hopen.1).2, fun hclosed => ?_⟩
    rcases hopen.2 with h | h <;> exact absurd (h.symm.trans hclosed) (by decide)
  | closed => exact hlive
  | listen => exact hlive

end TcpConn

variable {g : TcpSegment} {c : TcpConn}

/-! ### The ledger -/

/-- The first sequence number that is not acknowledged, and what has the numbers from there on: a
byte, or `none` for a SYN or a FIN. -/
structure Ledger where
  first : UInt32
  items : List (Option UInt8)

/-- The segment acknowledges numbers of the ledger. Before the peer has sent its SYN, only a segment
with this SYN does. -/
def Ledger.AckedBy (l : Ledger) (state : TcpState) (g : TcpSegment) : Prop :=
  g.has tcpFlagAck = true ∧ g.has tcpFlagRst = false ∧
    (state = .synSent → g.has tcpFlagSyn = true) ∧
    1 ≤ ahead l.first g.ack ∧ ahead l.first g.ack ≤ l.items.length

instance (l : Ledger) (state : TcpState) (g : TcpSegment) : Decidable (l.AckedBy state g) :=
  inferInstanceAs (Decidable (_ ∧ _ ∧ _ ∧ _ ∧ _))

def Ledger.record (l : Ledger) (state : TcpState) : ConnEvent → Ledger
  | .start n _ _ => ⟨n.iss, [none]⟩
  | .send _ payload => ⟨l.first, l.items ++ payload.map some⟩
  | .fin _ => ⟨l.first, l.items ++ [none]⟩
  | .hear _ g => if l.AckedBy state g then ⟨g.ack, l.items.drop (ahead l.first g.ack)⟩ else l
  | _ => l

lemma Ledger.record_hear (l : Ledger) (state : TcpState) (lost : Bool) (g : TcpSegment)
    {nxt : UInt32} (hcounted : ahead l.first nxt = l.items.length) :
    ahead (l.record state (.hear lost g)).first nxt = (l.record state (.hear lost g)).items.length ∧
      (l.record state (.hear lost g)).items <:+ l.items := by
  unfold Ledger.record
  dsimp only
  split
  · rename_i hacked
    have hle := hacked.2.2.2.2
    refine ⟨?_, List.drop_suffix _ _⟩
    rw [List.length_drop, ahead_of_le (by rwa [hcounted]), hcounted]
  · exact ⟨hcounted, List.suffix_rfl⟩

lemma Ledger.length_record_hear (l : Ledger) {state : TcpState} (lost : Bool) {nxt : UInt32}
    (hcounted : ahead l.first nxt = l.items.length) (hack : g.has tcpFlagAck = true)
    (hrst : g.has tcpFlagRst = false) (hsyn : state = .synSent → g.has tcpFlagSyn = true) :
    (l.record state (.hear lost g)).items.length ≤ ahead g.ack nxt := by
  unfold Ledger.record
  dsimp only
  split
  · rename_i hacked
    have hle : ahead l.first g.ack ≤ ahead l.first nxt := hcounted ▸ hacked.2.2.2.2
    rw [List.length_drop, ahead_of_le hle, hcounted]
  · rename_i hnot
    have hlt := ahead_lt l.first g.ack
    by_cases hzero : ahead l.first g.ack = 0
    · rw [← ahead_eq_zero.1 hzero, hcounted]
    · have hmore : l.items.length < ahead l.first g.ack := by
        by_contra hle
        exact hnot ⟨hack, hrst, hsyn, Nat.pos_of_ne_zero hzero, Nat.not_lt.1 hle⟩
      rw [ahead_of_lt (by rwa [hcounted]), hcounted]
      omega

lemma TcpConn.TakesAck.syn (h : c.TakesAck g) : c.state = .synSent → g.has tcpFlagSyn = true := by
  intro hstate
  have htakes := h.2
  rw [hstate] at htakes
  exact htakes.1

lemma TcpConn.TakesAck.lt (h : c.TakesAck g) : g.ack = c.sndNxt ∨ c.sndUna < g.ack := by
  obtain ⟨-, hstate⟩ := h
  cases hc : c.state with
  | synSent =>
    rw [hc] at hstate
    exact Or.inl hstate.2
  | synRcvd =>
    rw [hc] at hstate
    exact Or.inl hstate
  | established =>
    rw [hc] at hstate
    exact Or.inr hstate
  | closeWait =>
    rw [hc] at hstate
    exact Or.inr hstate
  | _ =>
    rw [hc] at hstate
    exact hstate.elim

lemma TcpConn.TakesAck.not_ends (h : c.TakesAck g)
    (hrst : g.has tcpFlagRst = false) : ¬ c.Ends g := by
  rintro (hrst' | ⟨hclosing, -⟩)
  · rw [hrst] at hrst'
    cases hrst'
  · have hstate := h.2
    rw [hclosing] at hstate
    exact hstate

/-- The table with a ledger for each entry. -/
structure LedgerState where
  tcp : Tcp
  ledgers : Fin 32 → Ledger

namespace LedgerState

def start (t : Tcp) : LedgerState := ⟨t, fun _ => ⟨0, []⟩⟩

def step (s : LedgerState) (o : TcpOp) : LedgerState × TcpAnswer :=
  (⟨(s.tcp.step o).1, fun i => (s.ledgers i).record (s.tcp.conns i).state (s.tcp.eventAt o i)⟩,
    (s.tcp.step o).2)

end LedgerState

/-! ### What a step does to the sending side of a connection -/

/-- What happens to a live connection: its sending side, its state and its ledger after the step. -/
inductive SenderStep (c : TcpConn) (l : Ledger) : ConnEvent → TcpSender → TcpState → Ledger → Prop
  | opened (n : TcpOpening) (tick : UInt32) (hstate : n.state = .synSent ∨ n.state = .synRcvd)
      (hflags : hasFlag n.flags tcpFlagSyn = true ∧ hasFlag n.flags tcpFlagFin = false) :
      SenderStep c l (.start n tick true) (.opened n.iss n.flags) n.state ⟨n.iss, [none]⟩
  | kept (e : ConnEvent) (hlive : c.Live) (hevent : (∀ lost g, e ≠ .hear lost g)) :
      SenderStep c l e c.sender c.state l
  | send (tick : UInt32) (payload : List UInt8) (hlive : c.Live) (hstate : c.state = .established)
      (hne : payload ≠ []) (hlen : payload.length ≤ tcpMaxPayload) :
      SenderStep c l (.send tick payload) (c.sender.sent (tcpFlagAck ||| tcpFlagPsh) payload)
        c.state
        ⟨l.first, l.items ++ payload.map some⟩
  | fin (tick : UInt32) (hlive : c.Live) :
      SenderStep c l (.fin tick) (c.sender.sent (tcpFlagFin ||| tcpFlagAck) []) .closing
        ⟨l.first, l.items ++ [none]⟩
  | acked (lost : Bool) (g : TcpSegment) (state : TcpState) (hlive : c.Live) (hends : ¬ c.Ends g)
      (htakes : c.TakesAck g) (hstate : state = .established ∨ state = .closeWait) :
      SenderStep c l (.hear lost g) (c.sender.acked g.ack) state (l.record c.state (.hear lost g))
  | heard (lost : Bool) (g : TcpSegment) (state : TcpState) (hlive : c.Live) (hends : ¬ c.Ends g)
      (htakes : ¬ c.TakesAck g) (hstate : state = c.state ∨ state = .closeWait) :
      SenderStep c l (.hear lost g) c.sender state (l.record c.state (.hear lost g))

lemma Tcp.payload_of_send {t : Tcp} {o : TcpOp} {i : Fin 32} {tick : UInt32} {payload : List UInt8}
    (h : t.eventAt o i = .send tick payload) : (t.conns i).state = .established ∧ payload ≠ [] ∧
      payload.length ≤ tcpMaxPayload := by
  rcases Tcp.called_of_event (Or.inl ⟨payload, h⟩) with ⟨j, data, rfl⟩ | ⟨j, rfl⟩
  · simp only [Tcp.eventAt] at h
    split_ifs at h with hsends
    cases h
    obtain ⟨rfl, hcan, hpos, -⟩ := hsends
    simp only [netTcpCanSend, Bool.and_eq_true, beq_iff_eq] at hcan
    refine ⟨hcan.2, fun hnil => ?_, ?_⟩
    · have hlen := congrArg List.length hnil
      rw [List.length_take, List.length_nil, tcpMaxPayload] at hlen
      omega
    · rw [List.length_take]
      exact Nat.min_le_left _ _
  · simp only [Tcp.eventAt] at h
    split_ifs at h

lemma Tcp.senderStep {t : Tcp} {o : TcpOp} {i : Fin 32} (l : Ledger)
    (hlive : ((t.step o).1.conns i).Live) :
    SenderStep (t.conns i) l (t.eventAt o i) ((t.step o).1.conns i).sender
      ((t.step o).1.conns i).state
      (l.record (t.conns i).state (t.eventAt o i)) := by
  by_cases hnew : (t.eventAt o i).IsNew
  · rw [Tcp.step_conns] at hlive ⊢
    rcases (Tcp.eventAt_new hnew).2 with ⟨port, -, -, hevent⟩ |
      ⟨dstIp, dstPort, srcPort, -, -, hevent⟩ |
        ⟨srcIp, dstIp, tcp, g, listener, -, -, -, -, -, hevent⟩
    · rw [hevent] at hlive
      cases hlive.2.1
    · rw [hevent] at hlive ⊢
      have hsent := (TcpConn.start_live (by simp [tcpConnecting])).1 hlive
      have hflags : hasFlag tcpFlagSyn tcpFlagSyn = true ∧
          hasFlag tcpFlagSyn tcpFlagFin = false := by
        decide
      rw [ConnEvent.apply, hsent]
      exact .opened _ _ (Or.inl rfl) hflags
    · rw [hevent] at hlive ⊢
      have hsent := (TcpConn.start_live (by simp [tcpRequested])).1 hlive
      have hflags : hasFlag (tcpFlagSyn ||| tcpFlagAck) tcpFlagSyn = true ∧
          hasFlag (tcpFlagSyn ||| tcpFlagAck) tcpFlagFin = false := by decide
      rw [ConnEvent.apply, hsent]
      exact .opened _ _ (Or.inr rfl) hflags
  have hbefore := (t.follows_step o i hnew).live hlive
  rw [Tcp.step_conns] at hlive ⊢
  cases hevent : t.eventAt o i with
  | listen port =>
    rw [hevent] at hnew
    exact absurd trivial hnew
  | start n tick sent =>
    rw [hevent] at hnew
    exact absurd trivial hnew
  | send tick payload =>
    obtain ⟨hstate, hne, hlen⟩ := Tcp.payload_of_send hevent
    exact .send tick payload hbefore hstate hne hlen
  | fin tick => exact .fin tick hbefore
  | hear lost g =>
    rw [hevent] at hlive
    have hends : ¬ (t.conns i).Ends g := fun hends => by
      have hunused := (TcpConn.hear_of_ends hends lost).1
      rw [ConnEvent.apply, TcpConn.Live, hunused] at hlive
      cases hlive.1
    obtain ⟨htaken, hkept⟩ := TcpConn.sender_hear hends lost
    by_cases htakes : (t.conns i).TakesAck g
    · rw [ConnEvent.apply, (htaken htakes).1]
      exact .acked lost g _ hbefore hends htakes (htaken htakes).2
    · rw [ConnEvent.apply, (hkept htakes).1]
      exact .heard lost g _ hbefore hends htakes (hkept htakes).2
  | recv =>
    have hsame : (ConnEvent.recv.apply (t.conns i)).sender = (t.conns i).sender ∧
        (ConnEvent.recv.apply (t.conns i)).state = (t.conns i).state := by
      unfold ConnEvent.apply
      dsimp only
      split
      · exact ⟨rfl, rfl⟩
      · exact ⟨rfl, rfl⟩
    rw [hsame.1, hsame.2]
    exact .kept _ hbefore (fun _ _ h => by cases h)
  | drop =>
    rw [hevent] at hlive
    cases hlive.1
  | _ =>
    refine .kept _ hbefore ?_
    rintro lost g ⟨⟩

end NeuroSpark
