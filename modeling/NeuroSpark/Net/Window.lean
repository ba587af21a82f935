import NeuroSpark.Net.Retransmission

/-!
# The send window

The numbers that are sent and not acknowledged lie from `snd_una` on to `snd_nxt`. Sequence numbers
lie on a circle, and acknowledgements are compared as words; the two agree as long as no comparison
is made across zero.
-/

namespace NeuroSpark

open Network Sequence

namespace TcpSender

/-- From `snd_una` on to `snd_nxt` lie the numbers of the ledger, and they are less than half of the
circle. -/
structure Window (p : TcpSender) (l : Ledger) : Prop where
  first : p.una = l.first
  counted : p.outstanding = l.items.length
  ordered : p.outstanding < 2147483648

/-- A number that lies beyond `snd_nxt`. -/
def Beyond (p : TcpSender) (ack : UInt32) : Prop :=
  0 < ahead p.nxt ack ∧ ahead p.nxt ack < 2147483648

/-- A number that acknowledges something that is outstanding. -/
def Acceptable (p : TcpSender) (ack : UInt32) : Prop :=
  1 ≤ ahead p.una ack ∧ ahead p.una ack ≤ p.outstanding

instance (p : TcpSender) (ack : UInt32) : Decidable (p.Beyond ack) :=
  inferInstanceAs (Decidable (_ ∧ _))

instance (p : TcpSender) (ack : UInt32) : Decidable (p.Acceptable ack) :=
  inferInstanceAs (Decidable (_ ∧ _))

lemma ahead_una_of_beyond {p : TcpSender} {ack : UInt32} (hordered : p.outstanding < 2147483648)
    (h : p.Beyond ack) : ahead p.una ack = p.outstanding + ahead p.nxt ack := by
  obtain ⟨hpos, hlt⟩ := h
  rw [ahead_trans p.una p.nxt ack]
  unfold outstanding at *
  omega

end TcpSender

/-- The segment without its acknowledgement. -/
def TcpSegment.withoutAck (g : TcpSegment) : TcpSegment :=
  { g with flags := g.flags &&& ~~~tcpFlagAck }

section

variable {g : TcpSegment}

lemma TcpSegment.withoutAck_has {flag : UInt8} (h : ~~~tcpFlagAck &&& flag = flag) :
    g.withoutAck.has flag = g.has flag := by
  unfold TcpSegment.has hasFlag TcpSegment.withoutAck
  rw [UInt8.and_assoc, h]

lemma TcpSegment.withoutAck_ack : g.withoutAck.has tcpFlagAck = false := by
  have hnone : ~~~tcpFlagAck &&& tcpFlagAck = 0 := by decide
  unfold TcpSegment.has hasFlag TcpSegment.withoutAck
  rw [UInt8.and_assoc, hnone, UInt8.and_zero]
  rfl

/-- An acknowledgement that is not taken, and does not end the connection, changes nothing. -/
lemma TcpConn.hear_withoutAck {c : TcpConn} (htakes : ¬ c.TakesAck g)
    (hdone : ¬ (c.state = .closing ∧ g.has tcpFlagAck = true ∧ g.ack ≥ c.sndNxt)) (lost : Bool) :
    c.hear lost g = c.hear lost g.withoutAck := by
  have hrst : g.withoutAck.has tcpFlagRst = g.has tcpFlagRst :=
    TcpSegment.withoutAck_has (by decide)
  have hfin : g.withoutAck.has tcpFlagFin = g.has tcpFlagFin :=
    TcpSegment.withoutAck_has (by decide)
  have hack : g.withoutAck.has tcpFlagAck = false := TcpSegment.withoutAck_ack
  have htakeFin : ∀ c : TcpConn, c.takeFin g.withoutAck = c.takeFin g := by
    intro c
    unfold TcpConn.takeFin
    rw [hfin]
    rfl
  have hwithout : tcpTakeAck c g.withoutAck.ack g.withoutAck.flags = c := by
    refine if_neg fun h => ?_
    rw [show hasFlag g.withoutAck.flags tcpFlagAck = false from hack] at h
    cases h.1
  unfold TcpConn.hear
  rw [hrst, hack, hfin]
  unfold TcpConn.TakesAck at htakes
  split
  · rfl
  cases hstate : c.state with
  | closing =>
    have hnot : ¬ (g.has tcpFlagAck && decide (g.ack ≥ c.sndNxt)) = true := fun h => by
      rw [Bool.and_eq_true, decide_eq_true_iff] at h
      exact hdone ⟨hstate, h⟩
    rw [if_neg hnot, Bool.false_and, if_neg Bool.false_ne_true]
    rfl
  | synSent =>
    rw [hstate] at htakes
    dsimp only
    rw [if_neg fun h => htakes ⟨h.2.1, h.1, h.2.2⟩, if_neg fun h => Bool.false_ne_true h.2.1]
  | synRcvd =>
    rw [hstate] at htakes
    dsimp only
    rw [if_neg fun h => htakes ⟨h.1, h.2⟩, if_neg fun h => Bool.false_ne_true h.1]
  | established =>
    rw [hstate] at htakes
    dsimp only
    rw [hwithout, show tcpTakeAck c g.ack g.flags = c from if_neg htakes, htakeFin, htakeFin]
    rfl
  | closeWait =>
    rw [hstate] at htakes
    dsimp only
    rw [hwithout, show tcpTakeAck c g.ack g.flags = c from if_neg htakes, htakeFin, htakeFin]
    rfl
  | closed => rfl
  | listen => rfl

end

/-- What the acknowledgement of a segment does to a connection: none beyond `snd_nxt` changes
anything, and one of `snd_nxt` stops the timer or completes the close. A connection that has sent
its SYN only hears it together with the SYN of its peer. -/
structure TcpConn.AckLaw (c c' : TcpConn) (lost : Bool) (g : TcpSegment) : Prop where
  beyond : c.sender.Beyond g.ack → c' = c.hear lost g.withoutAck
  all : g.has tcpFlagRst = false → (c.state = .synSent → g.has tcpFlagSyn = true) →
    g.ack = c.sndNxt →
      c'.waitingAck = false ∨ (c.state = .closing ∧ c'.used = false ∧ c'.state = .closed)

/-- The order of words agrees with the window: an acknowledgement that is compared with `snd_una` is
above it just when it is acceptable, and none is above `snd_nxt` that lies beyond it, or below
`snd_nxt` while it acknowledges a part of what is outstanding when the connection has been closed.
-/
def TcpConn.AcksInOrder (c : TcpConn) (ack : UInt32) : Prop :=
  match c.state with
  | .established | .closeWait => ack > c.sndUna ↔ c.sender.Acceptable ack
  | .closing => (c.sender.Beyond ack → ack < c.sndNxt) ∧
      (c.sender.Acceptable ack → ack ≥ c.sndNxt)
  | _ => True

/-- The window stays less than half of the circle, and acknowledgements come in order. -/
def TcpConn.InOrder (c : TcpConn) : ConnEvent → Prop
  | .send _ payload => c.sender.outstanding + payload.length < 2147483648
  | .fin _ => c.sender.outstanding + 1 < 2147483648
  | .hear _ g => g.has tcpFlagAck = true → g.has tcpFlagRst = false → c.AcksInOrder g.ack
  | _ => True

namespace LedgerState

/-- After the step every live connection has its window, and the acknowledgement that arrives in the
step does what it should. -/
def KeepsWindow (s : LedgerState) (o : TcpOp) : Prop :=
  (∀ i, ((s.step o).1.tcp.conns i).Live →
    ((s.step o).1.tcp.conns i).sender.Window ((s.step o).1.ledgers i)) ∧
  ∀ srcIp dstIp tcp, o = .segment srcIp dstIp tcp → ∀ i g, s.tcp.Arrives srcIp dstIp tcp i g →
    g.has tcpFlagAck = true →
      (s.tcp.conns i).AckLaw ((s.step o).1.tcp.conns i) s.tcp.net.losesPayload g

/-- At every live connection the step is in order. -/
def InOrder (s : LedgerState) (o : TcpOp) : Prop :=
  ∀ i, (s.tcp.conns i).Live → (s.tcp.conns i).InOrder (s.tcp.eventAt o i)

end LedgerState

/-- The window, and what else is always so: the timer runs only while something is outstanding, and
this is the SYN alone until it is acknowledged. -/
structure TcpSender.InWindow (p : TcpSender) (state : TcpState) (l : Ledger) : Prop where
  window : p.Window l
  waiting : p.waitingAck = true → p.una ≠ p.nxt
  opening : state = .synSent ∨ state = .synRcvd → p.outstanding = 1
  state : state ≠ .listen

section

variable {c : TcpConn} {l : Ledger} {g : TcpSegment}

/-- In the window an acknowledgement is taken just when the ledger has it. -/
lemma TcpConn.takesAck_iff (h : c.sender.InWindow c.state l) (hends : ¬ c.Ends g)
    (hlive : c.state ≠ .closed)
    (horder : g.has tcpFlagAck = true → g.has tcpFlagRst = false → c.AcksInOrder g.ack) :
    c.TakesAck g ↔ l.AckedBy c.state g := by
  obtain ⟨hfirst, hcounted, -⟩ := h.window
  have hrst : g.has tcpFlagRst = false := eq_false_of_ne_true fun h => hends (Or.inl h)
  have hone : c.state = .synSent ∨ c.state = .synRcvd →
      (c.sender.Acceptable g.ack ↔ g.ack = c.sndNxt) := by
    intro hstate
    have hout := h.opening hstate
    have hstep := add_ofNat_ahead c.sender.una c.sender.nxt
    unfold TcpSender.Acceptable
    rw [hout]
    unfold TcpSender.outstanding at hout
    constructor
    · rintro ⟨hlow, hhigh⟩
      have hack := add_ofNat_ahead c.sender.una g.ack
      rw [hout] at hstep
      rw [Nat.le_antisymm hhigh hlow, hstep] at hack
      exact hack.symm
    · intro heq
      rw [heq]
      exact ⟨hout.ge, hout.le⟩
  unfold TakesAck Ledger.AckedBy
  rw [← hfirst, ← hcounted]
  refine and_congr_right fun hack => ?_
  have horder := horder hack hrst
  unfold AcksInOrder at horder
  rw [and_iff_right hrst]
  cases hstate : c.state with
  | synSent =>
    simp only [forall_true_left]
    exact and_congr_right fun _ => (hone (Or.inl hstate)).symm
  | synRcvd =>
    simp only [reduceCtorEq, false_imp_iff, true_and]
    exact (hone (Or.inr hstate)).symm
  | established =>
    rw [hstate] at horder
    simp only [reduceCtorEq, false_imp_iff, true_and]
    exact horder
  | closeWait =>
    rw [hstate] at horder
    simp only [reduceCtorEq, false_imp_iff, true_and]
    exact horder
  | closing =>
    rw [hstate] at horder
    simp only [reduceCtorEq, false_imp_iff, true_and, false_iff]
    intro hacceptable
    exact hends (Or.inr ⟨hstate, hack, horder.2 hacceptable⟩)
  | closed => exact absurd hstate hlive
  | listen => exact absurd hstate h.state

namespace TcpSender

variable {p : TcpSender} {state state' : TcpState}

lemma inWindow_opened (iss : UInt32) (flags : UInt8)
    (hstate : state = .synSent ∨ state = .synRcvd) :
    (opened iss flags).InWindow state ⟨iss, [none]⟩ := by
  have hone : (opened iss flags).outstanding = 1 := by
    have hstep := ahead_add_ofNat (a := iss) (b := iss) (n := 1) (by rw [ahead_self]; decide)
    rw [ahead_self] at hstep
    exact hstep
  refine ⟨⟨rfl, hone, by rw [hone]; decide⟩, fun _ heq => ?_, fun _ => hone, ?_⟩
  · have hzero := ahead_eq_zero.2 heq
    rw [outstanding] at hone
    omega
  · rintro rfl
    rcases hstate with h | h <;> cases h

lemma InWindow.sent (h : p.InWindow state l) {p' : TcpSender} {m : List (Option UInt8)}
    (hroom : p.outstanding + m.length < 2147483648) (hpos : 0 < m.length) (huna : p'.una = p.una)
    (hnxt : p'.nxt = p.nxt + UInt32.ofNat m.length)
    (hopening : state' ≠ .synSent ∧ state' ≠ .synRcvd)
    (hlisten : state' ≠ .listen) : p'.InWindow state' ⟨l.first, l.items ++ m⟩ := by
  obtain ⟨hfirst, hcounted, -⟩ := h.window
  have hmore : p'.outstanding = p.outstanding + m.length := by
    unfold outstanding at *
    rw [huna, hnxt, ahead_add_ofNat (by omega)]
  refine ⟨⟨huna.trans hfirst, ?_, by omega⟩, fun _ heq => ?_, fun hstate => ?_, hlisten⟩
  · rw [hmore, hcounted, List.length_append]
  · have hzero := ahead_eq_zero.2 heq
    unfold outstanding at *
    omega
  · exact (hstate.elim hopening.1 hopening.2).elim

lemma InWindow.acked (h : p.InWindow state l) {lost : Bool} (hacked : l.AckedBy state g)
    (hstate' : state' = .established ∨ state' = .closeWait) :
    (p.acked g.ack).InWindow state' (l.record state (.hear lost g)) := by
  obtain ⟨hfirst, hcounted, hordered⟩ := h.window
  have hle := hacked.2.2.2.2
  have hrecord : l.record state (.hear lost g) = ⟨g.ack, l.items.drop (ahead l.first g.ack)⟩ :=
    if_pos hacked
  have hless : ahead g.ack p.nxt = p.outstanding - ahead l.first g.ack := by
    unfold outstanding at *
    rw [← hfirst] at hle ⊢
    exact ahead_of_le (by omega)
  rw [hrecord]
  refine ⟨⟨rfl, ?_, ?_⟩, fun hwaiting heq => ?_, fun hstate => ?_, ?_⟩
  · rw [List.length_drop, ← hcounted]
    exact hless
  · change ahead g.ack p.nxt < _
    omega
  · have hstopped : (p.acked g.ack).waitingAck = false := if_pos (UInt32.le_of_eq heq.symm)
    rw [hstopped] at hwaiting
    cases hwaiting
  · rcases hstate' with rfl | rfl <;> rcases hstate with h | h <;> cases h
  · rcases hstate' with rfl | rfl <;> exact fun h => by cases h

lemma InWindow.heard (h : p.InWindow state l) {lost : Bool} (hacked : ¬ l.AckedBy state g)
    (hstate' : state' = state ∨ state' = .closeWait) :
    p.InWindow state' (l.record state (.hear lost g)) := by
  have hrecord : l.record state (.hear lost g) = l := if_neg hacked
  rw [hrecord]
  refine ⟨h.window, h.waiting, fun hopening => ?_, ?_⟩
  · rcases hstate' with rfl | rfl
    · exact h.opening hopening
    · rcases hopening with h | h <;> cases h
  · rcases hstate' with rfl | rfl
    · exact h.state
    · exact fun h => by cases h

end TcpSender

/-- In the window an acknowledgement does what it should. -/
lemma TcpConn.ackLaw_of_inOrder (h : c.sender.InWindow c.state l) (hlive : c.state ≠ .closed)
    (hack : g.has tcpFlagAck = true) (horder : g.has tcpFlagRst = false → c.AcksInOrder g.ack)
    (lost : Bool) : c.AckLaw (c.hear lost g) lost g where
  beyond hbeyond := by
    have hahead := TcpSender.ahead_una_of_beyond h.window.ordered hbeyond
    have hne : g.ack ≠ c.sndNxt := fun heq => by
      have hzero := ahead_eq_zero.2 heq.symm
      exact absurd hbeyond.1 (Nat.not_lt.2 hzero.le)
    have hnot : ¬ c.sender.Acceptable g.ack := fun hacceptable => by
      have hle := hacceptable.2
      have hpos := hbeyond.1
      omega
    by_cases hrst : g.has tcpFlagRst = true
    · have hrst' : g.withoutAck.has tcpFlagRst = true :=
        (TcpSegment.withoutAck_has (by decide)).trans hrst
      rw [hear_of_rst hrst, hear_of_rst hrst']
    replace horder := horder (eq_false_of_ne_true hrst)
    unfold AcksInOrder at horder
    refine hear_withoutAck (fun htakes => ?_) (fun ⟨hstate, _, hge⟩ => ?_) lost
    · have hstate := htakes.2
      cases hc : c.state with
      | synSent =>
        rw [hc] at hstate
        exact hne hstate.2
      | synRcvd =>
        rw [hc] at hstate
        exact hne hstate
      | established =>
        rw [hc] at hstate horder
        exact hnot (horder.1 hstate)
      | closeWait =>
        rw [hc] at hstate horder
        exact hnot (horder.1 hstate)
      | _ =>
        rw [hc] at hstate
        exact hstate
    · rw [hstate] at horder
      exact absurd hge (UInt32.not_le.2 (horder.1 hbeyond))
  all hrst hsyn heq := by
    replace horder := horder hrst
    by_cases hends : c.Ends g
    · rcases hends with hrst' | ⟨hstate, -, -⟩
      · rw [hrst] at hrst'
        cases hrst'
      · obtain ⟨hused, hclosed⟩ := hear_of_ends
          (Or.inr ⟨hstate, hack, UInt32.le_of_eq heq.symm⟩) lost
        exact Or.inr ⟨hstate, hused, hclosed⟩
    refine Or.inl ?_
    by_cases htakes : c.TakesAck g
    · have hsender := ((sender_hear hends lost).1 htakes).1
      have hstopped : (c.sender.acked g.ack).waitingAck = false := if_pos (UInt32.le_of_eq heq.symm)
      rw [← hsender] at hstopped
      exact hstopped
    · have hsender := ((sender_hear hends lost).2 htakes).1
      have hempty : ¬ c.sender.Acceptable g.ack := fun hacceptable => by
        have hacked : l.AckedBy c.state g := by
          refine ⟨hack, hrst, hsyn, ?_⟩
          rw [← h.window.first, ← h.window.counted]
          exact hacceptable
        exact htakes ((takesAck_iff h hends hlive fun _ hrst => horder).2 hacked)
      have hdone : c.sndUna = c.sndNxt := by
        by_contra hne
        have hout : ahead c.sndUna c.sndNxt ≠ 0 := fun hzero => hne (ahead_eq_zero.1 hzero)
        refine hempty ?_
        rw [heq]
        exact ⟨Nat.pos_of_ne_zero hout, le_rfl⟩
      have hwaiting : c.sender.waitingAck = false :=
        eq_false_of_ne_true fun hwaiting => h.waiting hwaiting hdone
      rw [← hsender] at hwaiting
      exact hwaiting

end

namespace LedgerState

def InWindow (s : LedgerState) : Prop :=
  ∀ i, (s.tcp.conns i).Live →
    (s.tcp.conns i).sender.InWindow (s.tcp.conns i).state (s.ledgers i)

variable {s : LedgerState} {o : TcpOp} {lost : Bool} {i : Fin 32} {g : TcpSegment}

lemma inWindow_start {t : Tcp} (h : ∀ i, (t.conns i).used = false) : (start t).InWindow :=
  fun i hlive => absurd ((h i).symm.trans hlive.1) (by decide)

lemma InWindow.step (h : s.InWindow) (horder : s.InOrder o) : (s.step o).1.InWindow := by
  intro i hlive
  have hstep := Tcp.senderStep (s.ledgers i) hlive
  have hwindow := h i
  replace horder := horder i
  change ((s.tcp.step o).1.conns i).sender.InWindow ((s.tcp.step o).1.conns i).state
    ((s.ledgers i).record (s.tcp.conns i).state (s.tcp.eventAt o i))
  generalize s.tcp.eventAt o i = e at hstep horder ⊢
  generalize ((s.tcp.step o).1.conns i).sender = p' at hstep ⊢
  generalize ((s.tcp.step o).1.conns i).state = state at hstep ⊢
  generalize (s.ledgers i).record (s.tcp.conns i).state e = l' at hstep ⊢
  cases hstep with
  | opened n tick hstate hflags => exact TcpSender.inWindow_opened _ _ hstate
  | kept e hlive hevent => exact hwindow hlive
  | send tick payload hlive hstate hne hlen =>
    have hcount : (payload.map some).length = payload.length := List.length_map some
    rw [TcpSender.sent_data _ hne, hstate]
    refine (hwindow hlive).sent ?_ (by rw [hcount]; exact List.length_pos_iff.2 hne) rfl ?_
      (by decide)
      (by decide)
    · rw [hcount]
      exact horder hlive
    · rw [hcount]
  | fin tick hlive =>
    rw [TcpSender.sent_fin]
    exact (hwindow hlive).sent (horder hlive) (by decide) rfl rfl (by decide) (by decide)
  | acked lost g state hlive hends htakes hstate =>
    have hacked := (TcpConn.takesAck_iff (hwindow hlive) hends hlive.2.2 (horder hlive)).1 htakes
    exact (hwindow hlive).acked hacked hstate
  | heard lost g state hlive hends htakes hstate =>
    have hacked := mt (TcpConn.takesAck_iff (hwindow hlive) hends hlive.2.2 (horder hlive)).2 htakes
    exact (hwindow hlive).heard hacked hstate

lemma keepsWindow_of_inOrder (h : s.InWindow) (horder : s.InOrder o) : s.KeepsWindow o := by
  refine ⟨fun i hlive => (h.step horder i hlive).window, ?_⟩
  rintro srcIp dstIp tcp rfl i g harrives hack
  have hlive := (tcpFindConn_some harrives.2).1
  have hhear : ((s.step (.segment srcIp dstIp tcp)).1.tcp.conns i) =
      (s.tcp.conns i).hear s.tcp.net.losesPayload g := harrives.conns
  have hi := horder i hlive
  rw [harrives.eventAt] at hi
  rw [hhear]
  exact TcpConn.ackLaw_of_inOrder (h i hlive) hlive.2.2 hack (hi hack) _

lemma arrives_of_hear {t : Tcp}
    (h : t.eventAt o i = .hear lost g) : ∃ srcIp dstIp tcp, o = .segment srcIp dstIp tcp ∧
      t.Arrives srcIp dstIp tcp i g ∧ lost = t.net.losesPayload := by
  cases o with
  | segment srcIp dstIp tcp =>
    rcases t.eventAt_segment_cases srcIp dstIp tcp i with
      hidle | ⟨g', harrives, hhear⟩ | ⟨g', listener, -, -, -, -, -, hnew⟩
    · rw [hidle] at h
      cases h
    · rw [hhear] at h
      cases h
      exact ⟨srcIp, dstIp, tcp, rfl, harrives, rfl⟩
    · rw [hnew] at h
      cases h
  | poll =>
    unfold Tcp.eventAt TcpConn.pollEvent at h
    dsimp only at h
    split_ifs at h
  | outside net => cases h
  | _ =>
    unfold Tcp.eventAt at h
    dsimp only at h
    split_ifs at h

lemma KeepsWindow.window_hear (h' : s.KeepsWindow o) (hevent : s.tcp.eventAt o i = .hear lost g)
    (hlive : (s.tcp.conns i).Live)
    (hends : ¬ (s.tcp.conns i).Ends g) : ((s.tcp.conns i).hear lost g).sender.Window
      ((s.ledgers i).record (s.tcp.conns i).state (.hear lost g)) := by
  have hstep : (s.step o).1.tcp.conns i = (s.tcp.eventAt o i).apply (s.tcp.conns i) :=
    Tcp.step_conns s.tcp o i
  have hwindow := h'.1 i
  rw [hstep, hevent] at hwindow
  have hledger : (s.step o).1.ledgers i =
      (s.ledgers i).record (s.tcp.conns i).state (s.tcp.eventAt o i) := rfl
  rw [hledger, hevent] at hwindow
  exact hwindow (TcpConn.live_hear hends lost hlive)

lemma KeepsWindow.takesAck_iff (h' : s.KeepsWindow o) (h : s.InWindow)
    (hevent : s.tcp.eventAt o i = .hear lost g) (hlive : (s.tcp.conns i).Live)
    (hends : ¬ (s.tcp.conns i).Ends g) (hack : g.has tcpFlagAck = true)
    (hrst : g.has tcpFlagRst = false) (hsyn : (s.tcp.conns i).state ≠ .synSent)
    (htook : (s.tcp.conns i).TakesAck g → g.ack ≠ (s.tcp.conns i).sndUna) :
    (s.tcp.conns i).TakesAck g ↔ (s.tcp.conns i).sender.Acceptable g.ack := by
  have hfirst := (h'.window_hear hevent hlive hends).first
  obtain ⟨htaken, hkept⟩ := TcpConn.sender_hear hends lost
  have hacked : (s.ledgers i).AckedBy (s.tcp.conns i).state g ↔
      (s.tcp.conns i).sender.Acceptable g.ack := by
    unfold Ledger.AckedBy TcpSender.Acceptable
    rw [← (h i hlive).window.first, ← (h i hlive).window.counted]
    exact ⟨fun hall => hall.2.2.2, fun hin => ⟨hack, hrst, fun h => absurd h hsyn, hin⟩⟩
  rw [← hacked]
  unfold Ledger.record at hfirst
  dsimp only at hfirst
  constructor
  · intro htakes
    by_contra hnot
    rw [(htaken htakes).1, if_neg hnot, ← (h i hlive).window.first] at hfirst
    exact htook htakes hfirst
  · intro hin
    by_contra hnot
    rw [(hkept hnot).1, if_pos hin] at hfirst
    have hpos := (hacked.1 hin).1
    rw [hfirst, ahead_self] at hpos
    omega

lemma KeepsWindow.gt_iff (h' : s.KeepsWindow o) (h : s.InWindow)
    (hevent : s.tcp.eventAt o i = .hear lost g) (hlive : (s.tcp.conns i).Live)
    (hack : g.has tcpFlagAck = true) (hrst : g.has tcpFlagRst = false)
    (hopen : (s.tcp.conns i).state = .established ∨ (s.tcp.conns i).state = .closeWait) :
    g.ack > (s.tcp.conns i).sndUna ↔ (s.tcp.conns i).sender.Acceptable g.ack := by
  have htakes : (s.tcp.conns i).TakesAck g ↔ g.ack > (s.tcp.conns i).sndUna := by
    unfold TcpConn.TakesAck
    rcases hopen with hstate | hstate
    · rw [hstate]
      exact and_iff_right hack
    · rw [hstate]
      exact and_iff_right hack
  have hends : ¬ (s.tcp.conns i).Ends g := by
    rintro (hrst' | ⟨hclosing, -⟩)
    · rw [hrst] at hrst'
      cases hrst'
    · rw [hclosing] at hopen
      rcases hopen with h | h <;> cases h
  have hsyn : (s.tcp.conns i).state ≠ .synSent := by
    rcases hopen with hstate | hstate <;> rw [hstate] <;> decide
  rw [← htakes]
  exact h'.takesAck_iff h hevent hlive hends hack hrst hsyn fun ht =>
    (UInt32.ne_of_lt (htakes.1 ht)).symm

/-- A connection that has been closed here is over with the right acknowledgements. -/
lemma KeepsWindow.closing (h' : s.KeepsWindow o) (h : s.InWindow)
    (hevent : s.tcp.eventAt o i = .hear lost g) (hlive : (s.tcp.conns i).Live)
    (hack : g.has tcpFlagAck = true) (hrst : g.has tcpFlagRst = false)
    (hclosing : (s.tcp.conns i).state = .closing) :
    ((s.tcp.conns i).sender.Beyond g.ack → g.ack < (s.tcp.conns i).sndNxt) ∧
      ((s.tcp.conns i).sender.Acceptable g.ack → g.ack ≥ (s.tcp.conns i).sndNxt) := by
  have hnot : ¬ (s.tcp.conns i).TakesAck g := by
    unfold TcpConn.TakesAck
    rw [hclosing]
    exact fun h => h.2
  constructor
  · intro hbeyond
    by_contra hlt
    have hends : (s.tcp.conns i).Ends g := Or.inr ⟨hclosing, hack, UInt32.not_lt.1 hlt⟩
    obtain ⟨srcIp, dstIp, tcp, rfl, harrives, rfl⟩ := arrives_of_hear hevent
    have hlaw := (h'.2 srcIp dstIp tcp rfl i g harrives hack).beyond hbeyond
    have hhear : ((s.step (.segment srcIp dstIp tcp)).1.tcp.conns i) =
        (s.tcp.conns i).hear s.tcp.net.losesPayload g := harrives.conns
    have hends' : ¬ (s.tcp.conns i).Ends g.withoutAck := by
      rintro (hrst' | ⟨-, hack', -⟩)
      · rw [TcpSegment.withoutAck_has (by decide), hrst] at hrst'
        cases hrst'
      · rw [TcpSegment.withoutAck_ack] at hack'
        cases hack'
    have hclosed := (TcpConn.hear_of_ends hends s.tcp.net.losesPayload).2
    rw [← hhear, hlaw] at hclosed
    exact (TcpConn.live_hear hends' _ hlive).2.2 hclosed
  · intro hacceptable
    by_contra hlt
    have hends : ¬ (s.tcp.conns i).Ends g := by
      rintro (hrst' | ⟨-, -, hge⟩)
      · rw [hrst] at hrst'
        cases hrst'
      · exact hlt hge
    have hsyn : (s.tcp.conns i).state ≠ .synSent := by
      rw [hclosing]
      decide
    have hiff := h'.takesAck_iff h hevent hlive hends hack hrst hsyn fun ht => absurd ht hnot
    exact hnot (hiff.2 hacceptable)

lemma inOrder_of_keepsWindow (h : s.InWindow) (h' : s.KeepsWindow o) : s.InOrder o := by
  intro i hlive
  have hstep : (s.step o).1.tcp.conns i = (s.tcp.eventAt o i).apply (s.tcp.conns i) :=
    Tcp.step_conns s.tcp o i
  have hordered := (h i hlive).window.ordered
  cases hevent : s.tcp.eventAt o i with
  | send tick payload =>
    obtain ⟨-, hne, hlen⟩ := Tcp.payload_of_send hevent
    have hsent : (s.step o).1.tcp.conns i =
        (s.tcp.conns i).track tick (tcpFlagAck ||| tcpFlagPsh) payload := by
      rw [hstep, hevent]
      rfl
    have hwindow := (h'.1 i (by rw [hsent]; exact hlive)).ordered
    have hsender : ((s.tcp.conns i).track tick (tcpFlagAck ||| tcpFlagPsh) payload).sender =
        (s.tcp.conns i).sender.sent (tcpFlagAck ||| tcpFlagPsh) payload := rfl
    rw [hsent, hsender, TcpSender.sent_data _ hne] at hwindow
    unfold tcpMaxPayload at hlen
    unfold TcpSender.outstanding at hordered hwindow
    dsimp only at hwindow
    rw [ahead_add_ofNat (by omega)] at hwindow
    exact hwindow
  | fin tick =>
    have hsent : (s.step o).1.tcp.conns i =
        { (s.tcp.conns i).track tick (tcpFlagFin ||| tcpFlagAck) [] with state := .closing } := by
      rw [hstep, hevent]
      rfl
    have hwindow :=
      (h'.1 i (by rw [hsent]; exact ⟨hlive.1, hlive.2.1, fun h => (by cases h)⟩)).ordered
    have hsender : ({ (s.tcp.conns i).track tick (tcpFlagFin ||| tcpFlagAck) [] with
        state := .closing } : TcpConn).sender =
          (s.tcp.conns i).sender.sent (tcpFlagFin ||| tcpFlagAck) [] := rfl
    rw [hsent, hsender, TcpSender.sent_fin] at hwindow
    unfold TcpSender.outstanding at hordered hwindow
    have hone := ahead_add_ofNat (a := (s.tcp.conns i).sender.una) (b := (s.tcp.conns i).sender.nxt)
      (n := 1) (by omega)
    change ahead (s.tcp.conns i).sender.una (s.tcp.conns i).sender.nxt + 1 < 2147483648
    rw [← hone]
    exact hwindow
  | hear lost g =>
    intro hack hrst
    unfold TcpConn.AcksInOrder
    cases hstate : (s.tcp.conns i).state with
    | established => exact h'.gt_iff h hevent hlive hack hrst (Or.inl hstate)
    | closeWait => exact h'.gt_iff h hevent hlive hack hrst (Or.inr hstate)
    | closing => exact h'.closing h hevent hlive hack hrst hstate
    | _ => trivial
  | _ => trivial

/-- When no entry is used at the start, every step of a run keeps the windows and does with
acknowledgements what it should if and only if every step is in order. -/
theorem keepsWindow_iff {t : Tcp} (h : ∀ i, (t.conns i).used = false) (os : List TcpOp) :
    Machine.Runs KeepsWindow step (start t) os ↔ Machine.Runs InOrder step (start t) os :=
  Machine.runs_congr (I := InWindow) (fun _ _ hs hok => hs.step hok)
    (fun _ _ hs => ⟨fun h' => inOrder_of_keepsWindow hs h',
      fun hok => keepsWindow_of_inOrder hs hok⟩)
    (inWindow_start h) os

/-- Two bytes are sent. -/
theorem keepsWindow_one_payload :
    Machine.Runs KeepsWindow step (start Sockets.booted.tcp) (sendingRun [[104, 105]]) ↔
      Machine.Runs InOrder step (start Sockets.booted.tcp) (sendingRun [[104, 105]]) :=
  keepsWindow_iff (fun _ => rfl) (sendingRun [[104, 105]])

/-- An acknowledgement without anything else, for a connection from port 40000. -/
def ackFrom80 (ack : UInt32) : TcpOp :=
  .segment 0x0A000210 0x0A00020F (tcpSegment 0x0A000210 0x0A00020F 80 40000 5001 ack tcpFlagAck [])

/-- A connection whose sequence numbers are about to wrap: its payload begins at the last number. -/
def wrappingRun : List TcpOp :=
  [.connect 0x0A000210 80 40000,
    .segment 0x0A000210 0x0A00020F
      (tcpSegment 0x0A000210 0x0A00020F 80 40000 5000 0xFFFFFFFF (tcpFlagSyn ||| tcpFlagAck) []),
    .send 0 [104]]

/-- An acknowledgement of numbers that were never sent moves `snd_una` beyond `snd_nxt`. And when
`snd_nxt` has passed zero, the acknowledgement of all that was sent does not stop the timer. -/
theorem window_lost :
    (((Machine.run step (start Sockets.booted.tcp) (sendingRun [])).tcp.conns 0).sndNxt =
      0x10203041 ∧
      ((Machine.run step (start Sockets.booted.tcp)
        (sendingRun [] ++ [ackFrom80 0x10204000])).tcp.conns 0).sndUna = 0x10204000 ∧
      ¬ Machine.Runs KeepsWindow step (start Sockets.booted.tcp)
        (sendingRun [] ++ [ackFrom80 0x10204000])) ∧
    ((Machine.run step (start { Sockets.booted.tcp with issSeed := 0xFFFFFFFE })
        wrappingRun).tcp.conns 0).sndNxt = 0 ∧
      ((Machine.run step (start { Sockets.booted.tcp with issSeed := 0xFFFFFFFE })
        (wrappingRun ++ [ackFrom80 0])).tcp.conns 0).waitingAck = true := by
  have hnxt : ((Machine.run step (start Sockets.booted.tcp) (sendingRun [])).tcp.conns 0).sndNxt =
      0x10203041 := by decide +kernel
  have huna : ((Machine.run step (start Sockets.booted.tcp)
      (sendingRun [] ++ [ackFrom80 0x10204000])).tcp.conns 0).sndUna = 0x10204000 := by
    decide +kernel
  have hwrapped : ((Machine.run step (start { Sockets.booted.tcp with issSeed := 0xFFFFFFFE })
      wrappingRun).tcp.conns 0).sndNxt = 0 := by decide +kernel
  have hwaiting : ((Machine.run step (start { Sockets.booted.tcp with issSeed := 0xFFFFFFFE })
      (wrappingRun ++ [ackFrom80 0])).tcp.conns 0).waitingAck = true := by decide +kernel
  refine ⟨⟨hnxt, huna, fun h => ?_⟩, hwrapped, hwaiting⟩
  rw [Machine.runs_append] at h
  have hlive : ((step (Machine.run step (start Sockets.booted.tcp) (sendingRun []))
      (ackFrom80 0x10204000)).1.tcp.conns 0).Live := by decide +kernel
  have hfirst := (h.2.1.1 0 hlive).first
  exact absurd hfirst (by decide +kernel)

end LedgerState

end NeuroSpark
