import NeuroSpark.Net.Ledger
import NeuroSpark.Net.Stream

/-!
# What can be sent again

Only the last segment is kept. It is all that is not acknowledged as long as nothing is sent, and
the connection is not closed, before everything sent earlier has been acknowledged.
-/

namespace NeuroSpark

open Network Sequence

namespace TcpSender

/-- What has the sequence numbers of the segment that is kept. -/
def retained (p : TcpSender) : List (Option UInt8) :=
  (if hasFlag p.lastFlags tcpFlagSyn then [none] else []) ++ p.lastData.map some ++
    if hasFlag p.lastFlags tcpFlagFin then [none] else []

/-- Every sequence number that is outstanding is one of the segment that is kept, this segment is to
be sent again, and whatever is not acknowledged stands in it under its own number. -/
structure Resends (p : TcpSender) (l : Ledger) : Prop where
  covered : ∀ k < p.outstanding, ahead p.lastSeq (p.una + UInt32.ofNat k) < p.retained.length
  waiting : p.una ≠ p.nxt → p.waitingAck = true
  resent : ∀ k (h : k < l.items.length), p.waitingAck = true ∧
    p.retained[ahead p.lastSeq (l.first + UInt32.ofNat k)]? = some l.items[k]

/-- The segment that is kept ends at `snd_nxt`, and what is not acknowledged is the end of it. -/
structure Sound (p : TcpSender) (l : Ledger) : Prop where
  short : p.retained.length ≤ 1201
  ends : ahead p.lastSeq p.nxt = p.retained.length
  outstanding : p.outstanding ≤ p.retained.length
  waiting : p.una ≠ p.nxt → p.waitingAck = true
  counted : ahead l.first p.nxt = l.items.length
  unacked : l.items.length ≤ p.outstanding
  suffix : l.items <:+ p.retained

variable {p p' : TcpSender} {l : Ledger} {m : List (Option UInt8)} {k : ℕ}

lemma Sound.ahead_lastSeq (h : p.Sound l) {a : UInt32} (ha : ahead a p.nxt ≤ p.retained.length)
    (hk : k < ahead a p.nxt) :
    ahead p.lastSeq (a + UInt32.ofNat k) = p.retained.length - ahead a p.nxt + k := by
  have hends := h.ends
  have htrans := ahead_trans p.lastSeq a p.nxt
  have hlt := ahead_lt p.lastSeq a
  have hbase : ahead p.lastSeq a = p.retained.length - ahead a p.nxt := by omega
  rw [ahead_add_ofNat (by omega), hbase]

lemma Sound.resends (h : p.Sound l) : p.Resends l where
  covered k hk := by
    have hout := h.outstanding
    rw [h.ahead_lastSeq hout hk]
    unfold TcpSender.outstanding at *
    omega
  waiting := h.waiting
  resent k hk := by
    have hunacked := h.unacked
    have hout := h.outstanding
    have hcounted := h.counted
    have hne : p.una ≠ p.nxt := fun heq => by
      rw [TcpSender.outstanding, heq, ahead_self] at hunacked
      omega
    refine ⟨h.waiting hne, ?_⟩
    rw [h.ahead_lastSeq (by omega) (by omega), hcounted]
    obtain ⟨before, hbefore⟩ := h.suffix
    rw [← hbefore, List.length_append, Nat.add_sub_cancel,
      List.getElem?_append_right (Nat.le_add_right ..),
      Nat.add_sub_cancel_left]
    exact List.getElem?_eq_getElem hk

lemma retained_data (una nxt seq : UInt32) (waiting : Bool) (payload : List UInt8) :
    (⟨una, nxt, waiting, seq, tcpFlagAck ||| tcpFlagPsh, payload⟩ : TcpSender).retained =
      payload.map some := by
  have hsyn : hasFlag (tcpFlagAck ||| tcpFlagPsh) tcpFlagSyn = false := by decide
  have hfin : hasFlag (tcpFlagAck ||| tcpFlagPsh) tcpFlagFin = false := by decide
  simp [retained, hsyn, hfin]

lemma retained_fin (una nxt seq : UInt32) (waiting : Bool) :
    (⟨una, nxt, waiting, seq, tcpFlagFin ||| tcpFlagAck, []⟩ : TcpSender).retained = [none] := by
  have hsyn : hasFlag (tcpFlagFin ||| tcpFlagAck) tcpFlagSyn = false := by decide
  have hfin : hasFlag (tcpFlagFin ||| tcpFlagAck) tcpFlagFin = true := by decide
  simp [retained, hsyn, hfin]

lemma Sound.sent (h : p.Sound l) (hdone : p.una = p.nxt) (hpos : 0 < m.length)
    (hlen : m.length ≤ 1201)
    (huna : p'.una = p.una) (hnxt : p'.nxt = p.nxt + UInt32.ofNat m.length)
    (hseq : p'.lastSeq = p.nxt)
    (hretained : p'.retained = m) (hwaiting : p'.waitingAck = true) :
    p'.Sound ⟨l.first, l.items ++ m⟩ := by
  have hunacked := h.unacked
  rw [TcpSender.outstanding, hdone, ahead_self] at hunacked
  have hnil : l.items = [] := List.length_eq_zero_iff.1 (Nat.le_zero.1 hunacked)
  have hcounted := h.counted
  rw [hnil] at hcounted
  have hfirst := ahead_eq_zero.1 hcounted
  have hstep : ahead p.nxt (p.nxt + UInt32.ofNat m.length) = m.length := by
    rw [ahead_add_ofNat (by rw [ahead_self]; omega), ahead_self, Nat.zero_add]
  refine ⟨by rwa [hretained], by rw [hseq, hnxt, hretained, hstep], ?_, fun _ => hwaiting, ?_,
    ?_, ?_⟩
  · rw [TcpSender.outstanding, huna, hdone, hnxt, hretained, hstep]
  · rw [hfirst, hnxt, hstep, hnil, List.nil_append]
  · rw [TcpSender.outstanding, huna, hdone, hnxt, hstep, hnil, List.nil_append]
  · rw [hnil, hretained, List.nil_append]

lemma Sound.una_eq_of_sent (h : p.Sound l) {l' : Ledger} (h' : p'.Resends l')
    (hretained : p'.retained = m)
    (hlen : m.length ≤ 1201) (huna : p'.una = p.una) (hnxt : p'.nxt = p.nxt + UInt32.ofNat m.length)
    (hseq : p'.lastSeq = p.nxt) : p.una = p.nxt := by
  by_contra hne
  have hout := h.outstanding
  have hshort := h.short
  have hpos' : p.outstanding ≠ 0 := fun hzero => hne (ahead_eq_zero.1 hzero)
  have hmore : p'.outstanding = p.outstanding + m.length := by
    unfold TcpSender.outstanding at *
    rw [huna, hnxt, ahead_add_ofNat (by omega)]
  have hfirst := h'.covered 0 (by omega)
  have hback : ahead p.nxt p.una = 4294967296 - p.outstanding := by
    have htrans := ahead_trans p.una p.nxt p.una
    have hlt := ahead_lt p.nxt p.una
    rw [ahead_self] at htrans
    unfold TcpSender.outstanding at *
    omega
  rw [hseq, huna, hretained, show p.una + UInt32.ofNat 0 = p.una from UInt32.add_zero _,
    hback] at hfirst
  omega

lemma sound_opened {iss : UInt32} {flags : UInt8} (hsyn : hasFlag flags tcpFlagSyn = true)
    (hfin : hasFlag flags tcpFlagFin = false) : (opened iss flags).Sound ⟨iss, [none]⟩ := by
  have hstep : ahead iss (iss + 1) = 1 := by
    have hone := ahead_add_ofNat (a := iss) (b := iss) (n := 1) (by rw [ahead_self]; decide)
    rw [ahead_self] at hone
    exact hone
  have hretained : (opened iss flags).retained = [none] := by simp [opened, retained, hsyn, hfin]
  refine ⟨?_, ?_, ?_, fun _ => rfl, hstep, hstep.ge, ?_⟩
  · rw [hretained]
    decide
  · rw [hretained]
    exact hstep
  · rw [hretained]
    exact hstep.le
  · rw [hretained]

end TcpSender

namespace TcpSender

variable {p : TcpSender} {l : Ledger} {g : TcpSegment}

lemma Sound.heard (h : p.Sound l) (state : TcpState) (lost : Bool) (g : TcpSegment) :
    p.Sound (l.record state (.hear lost g)) := by
  obtain ⟨hcounted, hsuffix⟩ := l.record_hear state lost g h.counted
  exact ⟨h.short, h.ends, h.outstanding, h.waiting, hcounted, hsuffix.length_le.trans h.unacked,
    hsuffix.trans h.suffix⟩

lemma Sound.acked (h : p.Sound l) {state : TcpState} (lost : Bool)
    (hnxt : g.ack = p.nxt ∨ (p.una < g.ack ∧ g.ack < p.nxt)) (hack : g.has tcpFlagAck = true)
    (hrst : g.has tcpFlagRst = false) (hsyn : state = .synSent → g.has tcpFlagSyn = true) :
    (p.acked g.ack).Sound (l.record state (.hear lost g)) := by
  obtain ⟨hcounted, hsuffix⟩ := l.record_hear state lost g h.counted
  have hout : ahead g.ack p.nxt ≤ p.outstanding := by
    rcases hnxt with heq | ⟨hlow, hhigh⟩
    · rw [heq, ahead_self]
      exact Nat.zero_le _
    · have hlow' := UInt32.lt_iff_toNat_lt.1 hlow
      rw [TcpSender.outstanding, ahead_of_word_le (UInt32.le_of_lt hhigh),
        ahead_of_word_le (UInt32.le_of_lt (UInt32.lt_trans hlow hhigh))]
      omega
  refine ⟨h.short, h.ends, hout.trans h.outstanding, fun hne => ?_, hcounted,
    l.length_record_hear lost h.counted hack hrst hsyn, hsuffix.trans h.suffix⟩
  rcases hnxt with heq | ⟨hlow, hhigh⟩
  · exact absurd heq hne
  · have hwaiting := h.waiting (UInt32.ne_of_lt (UInt32.lt_trans hlow hhigh))
    exact (if_neg (UInt32.not_le.2 hhigh)).trans hwaiting

end TcpSender

/-- A segment is sent when everything before it has been acknowledged, and no acknowledgement that
is taken goes past `snd_nxt`. -/
def TcpConn.InTurn (c : TcpConn) : ConnEvent → Prop
  | .send _ _ => c.sndUna = c.sndNxt
  | .fin _ => c.sndUna = c.sndNxt
  | .hear _ g => g.has tcpFlagRst = false → c.TakesAck g → g.ack ≥ c.sndNxt → g.ack = c.sndNxt
  | _ => True

namespace LedgerState

/-- Every live connection can send again what is not acknowledged. -/
def Resends (s : LedgerState) : Prop :=
  ∀ i, (s.tcp.conns i).Live → (s.tcp.conns i).sender.Resends (s.ledgers i)

def SoundCopies (s : LedgerState) : Prop :=
  ∀ i, (s.tcp.conns i).Live → (s.tcp.conns i).sender.Sound (s.ledgers i)

/-- At every live connection the step is in turn. -/
def InTurn (s : LedgerState) (o : TcpOp) : Prop :=
  ∀ i, (s.tcp.conns i).Live → (s.tcp.conns i).InTurn (s.tcp.eventAt o i)

variable {s : LedgerState} {o : TcpOp}

lemma soundCopies_start {t : Tcp} (h : ∀ i, (t.conns i).used = false) : (start t).SoundCopies :=
  fun i hlive => absurd ((h i).symm.trans hlive.1) (by decide)

lemma SoundCopies.step (h : s.SoundCopies) (hturn : s.InTurn o) : (s.step o).1.SoundCopies := by
  intro i hlive
  have hstep := Tcp.senderStep (s.ledgers i) hlive
  have hsound := h i
  replace hturn := hturn i
  change ((s.tcp.step o).1.conns i).sender.Sound
    ((s.ledgers i).record (s.tcp.conns i).state (s.tcp.eventAt o i))
  generalize s.tcp.eventAt o i = e at hstep hturn ⊢
  generalize ((s.tcp.step o).1.conns i).sender = p' at hstep ⊢
  generalize ((s.tcp.step o).1.conns i).state = state at hstep
  generalize (s.ledgers i).record (s.tcp.conns i).state e = l' at hstep ⊢
  cases hstep with
  | opened n tick hstate hflags => exact TcpSender.sound_opened hflags.1 hflags.2
  | kept e hlive hevent => exact hsound hlive
  | send tick payload hlive hstate hne hlen =>
    have hcount : (payload.map some).length = payload.length := List.length_map some
    have hpos := List.length_pos_iff.2 hne
    unfold tcpMaxPayload at hlen
    rw [TcpSender.sent_data _ hne]
    refine (hsound hlive).sent (hturn hlive) (by rwa [hcount]) (by omega) rfl ?_ rfl
      (TcpSender.retained_data ..) rfl
    rw [hcount]
  | fin tick hlive =>
    rw [TcpSender.sent_fin]
    exact (hsound hlive).sent (hturn hlive) (by decide) (by decide) rfl rfl rfl
      (TcpSender.retained_fin ..) rfl
  | acked lost g state hlive hends htakes hstate =>
    have hrst : g.has tcpFlagRst = false := eq_false_of_ne_true fun h => hends (Or.inl h)
    refine (hsound hlive).acked lost ?_ htakes.1 hrst htakes.syn
    by_cases hge : g.ack ≥ (s.tcp.conns i).sndNxt
    · exact Or.inl (hturn hlive hrst htakes hge)
    · exact htakes.lt.imp_right fun hlow => ⟨hlow, UInt32.not_le.1 hge⟩
  | heard lost g state hlive hends htakes hstate => exact (hsound hlive).heard _ lost g

lemma inTurn_of_resends (h : s.SoundCopies) (h' : (s.step o).1.Resends) : s.InTurn o := by
  intro i hlive
  have hresends : ((s.tcp.step o).1.conns i).Live → ((s.tcp.step o).1.conns i).sender.Resends
      ((s.ledgers i).record (s.tcp.conns i).state (s.tcp.eventAt o i)) := h' i
  rw [Tcp.step_conns] at hresends
  cases hevent : s.tcp.eventAt o i with
  | send tick payload =>
    rw [hevent] at hresends
    obtain ⟨-, hne, hlen⟩ := Tcp.payload_of_send hevent
    have hcount : (payload.map some).length = payload.length := List.length_map some
    have hsent : ((ConnEvent.send tick payload).apply (s.tcp.conns i)).sender =
        (s.tcp.conns i).sender.sent (tcpFlagAck ||| tcpFlagPsh) payload := rfl
    replace hresends := hresends hlive
    rw [hsent, TcpSender.sent_data _ hne] at hresends
    unfold tcpMaxPayload at hlen
    refine (h i hlive).una_eq_of_sent hresends (TcpSender.retained_data ..) (by omega) rfl ?_ rfl
    rw [hcount]
  | fin tick =>
    rw [hevent] at hresends
    have hsent : ((ConnEvent.fin tick).apply (s.tcp.conns i)).sender =
        (s.tcp.conns i).sender.sent (tcpFlagFin ||| tcpFlagAck) [] := rfl
    replace hresends := hresends ⟨hlive.1, hlive.2.1, fun h => (by cases h)⟩
    rw [hsent, TcpSender.sent_fin] at hresends
    exact (h i hlive).una_eq_of_sent hresends (TcpSender.retained_fin ..) (by decide) rfl rfl rfl
  | hear lost g =>
    intro hrst htakes hge
    rw [hevent] at hresends
    have hends := htakes.not_ends hrst
    replace hresends := hresends (TcpConn.live_hear hends lost hlive)
    rw [ConnEvent.apply, ((TcpConn.sender_hear hends lost).1 htakes).1] at hresends
    by_contra hne
    have hwaiting := hresends.waiting hne
    rw [TcpSender.acked, if_pos (show g.ack ≥ (s.tcp.conns i).sender.nxt from hge)] at hwaiting
    cases hwaiting
  | _ => trivial

/-- When no entry is used at the start, every live connection can all along a run send again what is
not acknowledged if and only if every step of the run is in turn. -/
theorem resends_iff {t : Tcp} (h : ∀ i, (t.conns i).used = false) (os : List TcpOp) :
    (∀ pre, pre <+: os → (Machine.run step (start t) pre).Resends) ↔
      Machine.Runs InTurn step (start t) os :=
  Machine.runs_iff_forall_prefix (I := SoundCopies) (P := Resends) (fun _ _ hs hok => hs.step hok)
    (fun _ hs i hlive => (hs i hlive).resends) (fun _ _ hs h' => inTurn_of_resends hs h')
    (soundCopies_start h) os

end LedgerState

/-- A connection to port 80 of 10.0.2.16 that is established, and the payloads that it sends. -/
def sendingRun (payloads : List (List UInt8)) : List TcpOp :=
  [.connect 0x0A000210 80 40000,
    .segment 0x0A000210 0x0A00020F (segmentFrom80 5000 (tcpFlagSyn ||| tcpFlagAck) [])] ++
    payloads.map (.send 0)

namespace LedgerState

/-- Two bytes are sent. -/
theorem resends_one_payload :
    (∀ pre, pre <+: sendingRun [[104, 105]] →
      (Machine.run step (start Sockets.booted.tcp) pre).Resends) ↔
        Machine.Runs InTurn step (start Sockets.booted.tcp) (sendingRun [[104, 105]]) :=
  resends_iff (fun _ => rfl) (sendingRun [[104, 105]])

/-- Two payloads are sent without an acknowledgement between them. Only the second one is kept, and
the three bytes of the first cannot be sent again. -/
theorem first_payload_lost :
    ((Machine.run step (start Sockets.booted.tcp) (sendingRun [])).tcp.step (.send 0 [1, 2, 3])).2 =
        .sent 3 ∧
      ((Machine.run step (start Sockets.booted.tcp) (sendingRun [[1, 2, 3]])).tcp.step
        (.send 0 [4])).2 =
        .sent 1 ∧
      ((Machine.run step (start Sockets.booted.tcp)
        (sendingRun [[1, 2, 3], [4]])).tcp.conns 0).lastTxData =
        [4] ∧
      ¬ (Machine.run step (start Sockets.booted.tcp) (sendingRun [[1, 2, 3], [4]])).Resends := by
  have hfirst : ((Machine.run step (start Sockets.booted.tcp) (sendingRun [])).tcp.step
      (.send 0 [1, 2, 3])).2 = .sent 3 := by decide +kernel
  have hsecond : ((Machine.run step (start Sockets.booted.tcp) (sendingRun [[1, 2, 3]])).tcp.step
      (.send 0 [4])).2 = .sent 1 := by decide +kernel
  have hkept : ((Machine.run step (start Sockets.booted.tcp)
      (sendingRun [[1, 2, 3], [4]])).tcp.conns 0).lastTxData = [4] := by decide +kernel
  refine ⟨hfirst, hsecond, hkept, fun h => ?_⟩
  have hlive : ((Machine.run step (start Sockets.booted.tcp)
      (sendingRun [[1, 2, 3], [4]])).tcp.conns 0).Live := by decide +kernel
  have hout : 0 < ((Machine.run step (start Sockets.booted.tcp)
      (sendingRun [[1, 2, 3], [4]])).tcp.conns 0).sender.outstanding := by decide +kernel
  have hcovered := (h 0 hlive).covered 0 hout
  exact absurd hcovered (by decide +kernel)

end LedgerState

end NeuroSpark
