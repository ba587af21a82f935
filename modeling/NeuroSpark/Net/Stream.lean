import Mathlib.Data.UInt
import NeuroSpark.Net.Entries
import NeuroSpark.Net.Peers

/-!
# The bytes that arrive on a connection

A connection queues the payloads that come in sequence and acknowledges them by `rcv_nxt`. Payload
and FIN of a segment are taken by two tests of the same sequence number, the first of which changes
what the second compares with. The reader takes the oldest payload, all of it, whatever the size of
its buffer.
-/

namespace NeuroSpark

open Network

namespace TcpConn

/-- The connection takes payloads. -/
def Open (c : TcpConn) : Prop :=
  c.used = true ∧ c.listening = false ∧ (c.state = .established ∨ c.state = .closeWait)

instance (c : TcpConn) : Decidable c.Open := inferInstanceAs (Decidable (_ ∧ _ ∧ _))

/-- There is room for a payload, and it is not lost. -/
def Admits (c : TcpConn) (lost : Bool) (g : TcpSegment) : Prop :=
  g.payload.length ≤ tcpMaxPayload ∧ c.rxQueue.count < 16 ∧ (lost = true → g.payload = [])

instance (c : TcpConn) (lost : Bool) (g : TcpSegment) : Decidable (c.Admits lost g) :=
  inferInstanceAs (Decidable (_ ∧ _ ∧ (_ → _)))

def queued (c : TcpConn) : List UInt8 := c.rxQueue.toList.flatten

section

variable {c : TcpConn} {lost : Bool} {g : TcpSegment}

lemma hear_of_open (hopen : c.Open) (hrst : g.has tcpFlagRst = false) : c.hear lost g =
    if g.payload.length > 0 then
      if lost then tcpTakeAck c g.ack g.flags
      else (tcpTakePayload (tcpTakeAck c g.ack g.flags) g.seq g.payload).takeFin g
    else (tcpTakeAck c g.ack g.flags).takeFin g := by
  unfold hear
  rw [hrst]
  rcases hopen.2.2 with hstate | hstate
  · rw [hstate]
    rfl
  · rw [hstate]
    rfl

lemma hear_of_rst (hrst : g.has tcpFlagRst = true) :
    c.hear lost g = { c with state := .closed, used := false } := by
  unfold hear
  rw [if_pos hrst]

lemma takeAck_frame (c : TcpConn) (ack : UInt32) (flags : UInt8) :
    (tcpTakeAck c ack flags).rcvNxt = c.rcvNxt ∧ (tcpTakeAck c ack flags).rxQueue = c.rxQueue ∧
      (tcpTakeAck c ack flags).state = c.state ∧ (tcpTakeAck c ack flags).used = c.used ∧
      (tcpTakeAck c ack flags).listening = c.listening := by
  unfold tcpTakeAck
  split
  · exact ⟨rfl, rfl, rfl, rfl, rfl⟩
  · exact ⟨rfl, rfl, rfl, rfl, rfl⟩

lemma takePayload_of_admits (hseq : g.seq = c.rcvNxt) (hne : g.payload ≠ [])
    (hlen : g.payload.length ≤ tcpMaxPayload) (hroom : c.rxQueue.count < 16) :
    tcpTakePayload c g.seq g.payload =
      { c with
        rxQueue := c.rxQueue.push g.payload hroom
        rcvNxt := c.rcvNxt + UInt32.ofNat g.payload.length } := by
  have hpos : g.payload.length ≠ 0 := fun h => hne (List.length_eq_zero_iff.1 h)
  rw [tcpTakePayload, if_pos hseq, tcpQueueRx, if_neg hpos, if_neg (Nat.not_lt.2 hlen),
    dif_pos hroom]
  rfl

lemma takePayload_of_not (hne : g.payload ≠ [])
    (h : ¬ (g.seq = c.rcvNxt ∧ g.payload.length ≤ tcpMaxPayload ∧ c.rxQueue.count < 16)) :
    tcpTakePayload c g.seq g.payload = c := by
  have hpos : g.payload.length ≠ 0 := fun h => hne (List.length_eq_zero_iff.1 h)
  unfold tcpTakePayload
  split_ifs with hseq
  · unfold tcpQueueRx
    rw [if_neg hpos]
    split_ifs with hlen hroom
    · rfl
    · exact absurd ⟨hseq, Nat.not_lt.1 hlen, hroom⟩ h
    · rfl
  · rfl

lemma takeFin_frame (c : TcpConn) (g : TcpSegment) :
    (c.takeFin g).rxQueue = c.rxQueue ∧ (c.takeFin g).used = c.used ∧
      (c.takeFin g).listening = c.listening ∧
      (c.takeFin g).state = (if g.has tcpFlagFin then .closeWait else c.state) ∧
      (c.takeFin g).rcvNxt =
        if g.has tcpFlagFin ∧ g.seq = c.rcvNxt then c.rcvNxt + 1 else c.rcvNxt := by
  unfold takeFin
  split
  · rename_i hfin
    simp [hfin]
  · rename_i hfin
    simp [hfin]

/-- The payload of the segment is the next one, and it is queued. -/
def Takes (c : TcpConn) (lost : Bool) (g : TcpSegment) : Prop :=
  g.seq = c.rcvNxt ∧ g.payload ≠ [] ∧ c.Admits lost g

lemma seq_ne_add_length {n : UInt32} {l : List UInt8} (hne : l ≠ [])
    (hlen : l.length ≤ tcpMaxPayload) :
    n ≠ n + UInt32.ofNat l.length := by
  intro heq
  have hzero : UInt32.ofNat l.length = 0 := left_eq_add.1 heq
  have hpos := List.length_pos_iff.2 hne
  have hnat := congrArg UInt32.toNat hzero
  unfold tcpMaxPayload at hlen
  rw [UInt32.toNat_ofNat_of_lt' (by change _ < 4294967296; omega)] at hnat
  change _ = 0 at hnat
  omega

lemma hear_of_takes (hopen : c.Open) (hrst : g.has tcpFlagRst = false) (h : c.Takes lost g) :
    (c.hear lost g).queued = c.queued ++ g.payload ∧
      (c.hear lost g).rcvNxt = c.rcvNxt + UInt32.ofNat g.payload.length ∧
      (c.hear lost g).state = (if g.has tcpFlagFin then .closeWait else c.state) ∧
      (c.hear lost g).used = c.used ∧ (c.hear lost g).listening = c.listening := by
  obtain ⟨hseq, hne, hlen, hroom, hlost⟩ := h
  obtain ⟨hnxt, hqueue, hstate, hused, hlistening⟩ := takeAck_frame c g.ack g.flags
  have hpos : g.payload.length > 0 := List.length_pos_iff.2 hne
  have hkept : ¬ lost = true := fun h => hne (hlost h)
  rw [hear_of_open hopen hrst, if_pos hpos, if_neg hkept]
  generalize tcpTakeAck c g.ack g.flags = c₁ at hnxt hqueue hstate hused hlistening
  rw [← hnxt] at hseq
  rw [← hqueue] at hroom
  obtain ⟨hqueue', hused', hlistening', hstate', hnxt'⟩ := takeFin_frame
    (tcpTakePayload c₁ g.seq g.payload) g
  rw [queued, hqueue', hnxt', hstate', hused', hlistening',
    takePayload_of_admits hseq hne hlen hroom]
  refine ⟨?_, ?_, ?_, hused, hlistening⟩
  · rw [RingBuffer.toList_push, List.flatten_append, List.flatten_singleton, hqueue]
    rfl
  · have hbehind : ¬ (g.has tcpFlagFin = true ∧
        g.seq = c₁.rcvNxt + UInt32.ofNat g.payload.length) := fun h =>
      seq_ne_add_length hne hlen (hseq.symm.trans h.2)
    rw [if_neg hbehind, hnxt]
  · rw [hstate]

lemma hear_of_not_takes (hopen : c.Open) (hrst : g.has tcpFlagRst = false) (h : ¬ c.Takes lost g) :
    (c.hear lost g).rxQueue = c.rxQueue ∧
      (c.hear lost g).rcvNxt = (if g.payload ≠ [] ∧ lost = true then c.rcvNxt
        else if g.has tcpFlagFin ∧ g.seq = c.rcvNxt then c.rcvNxt + 1 else c.rcvNxt) ∧
      (c.hear lost g).state = (if g.payload ≠ [] ∧ lost = true then c.state
        else if g.has tcpFlagFin then .closeWait else c.state) ∧
      (c.hear lost g).used = c.used ∧ (c.hear lost g).listening = c.listening := by
  obtain ⟨hnxt, hqueue, hstate, hused, hlistening⟩ := takeAck_frame c g.ack g.flags
  have hrefused : ¬ (g.payload ≠ [] ∧ lost = true) → g.payload ≠ [] →
      tcpTakePayload (tcpTakeAck c g.ack g.flags) g.seq g.payload = tcpTakeAck c g.ack g.flags := by
    intro hkept hne
    refine takePayload_of_not hne fun hall => h ?_
    rw [hnxt, hqueue] at hall
    exact ⟨hall.1, hne, hall.2.1, hall.2.2, fun hlost => absurd ⟨hne, hlost⟩ hkept⟩
  have hpos : g.payload.length > 0 ↔ g.payload ≠ [] := List.length_pos_iff
  have hresult : c.hear lost g = if g.payload ≠ [] ∧ lost = true then tcpTakeAck c g.ack g.flags
      else (tcpTakeAck c g.ack g.flags).takeFin g := by
    rw [hear_of_open hopen hrst]
    by_cases hne : g.payload ≠ []
    · rw [if_pos (hpos.2 hne)]
      by_cases hlost : lost = true
      · rw [if_pos hlost, if_pos ⟨hne, hlost⟩]
      · have hkept : ¬ (g.payload ≠ [] ∧ lost = true) := fun h => hlost h.2
        rw [if_neg hlost, if_neg hkept, hrefused hkept hne]
    · have hkept : ¬ (g.payload ≠ [] ∧ lost = true) := fun h => hne h.1
      rw [if_neg (mt hpos.1 hne), if_neg hkept]
  rw [hresult]
  by_cases hkept : g.payload ≠ [] ∧ lost = true
  · rw [if_pos hkept, if_pos hkept, if_pos hkept]
    exact ⟨hqueue, hnxt, hstate, hused, hlistening⟩
  · obtain ⟨hqueue', hused', hlistening', hstate', hnxt'⟩ :=
      takeFin_frame (tcpTakeAck c g.ack g.flags) g
    rw [if_neg hkept, if_neg hkept, if_neg hkept, hqueue', hnxt', hstate', hused',
      hlistening', hnxt,
      hstate]
    exact ⟨hqueue, rfl, rfl, hused, hlistening⟩

end

end TcpConn

/-- A FIN behind its payload is counted after it, and one that comes too early is not counted at
all. -/
def FinInSequence (c c' : TcpConn) (lost : Bool) (g : TcpSegment) : Prop :=
  (g.seq = c.rcvNxt → c.Admits lost g →
    c'.rcvNxt = c.rcvNxt + UInt32.ofNat g.payload.length + 1 ∧ c'.state = .closeWait) ∧
  (g.seq ≠ c.rcvNxt → c'.rcvNxt = c.rcvNxt ∧ c'.state = c.state)

lemma TcpConn.hear_finInSequence {c : TcpConn} {lost : Bool} {g : TcpSegment} (hopen : c.Open)
    (hstate : c.state = .established) (hfin : g.has tcpFlagFin = true) :
    FinInSequence c (c.hear lost g) lost g ↔
      (g.seq = c.rcvNxt → c.Admits lost g → g.has tcpFlagRst = false ∧ g.payload = []) ∧
        (g.seq ≠ c.rcvNxt → g.has tcpFlagRst = false ∧ g.payload ≠ [] ∧ lost = true) := by
  cases hrst : g.has tcpFlagRst with
  | true =>
    have hclosed : (c.hear lost g).state = .closed := by rw [TcpConn.hear_of_rst hrst]
    simp only [FinInSequence, hclosed, hstate, reduceCtorEq, and_false, imp_false, false_and]
  | false =>
    simp only [true_and]
    refine and_congr (imp_congr_right fun hseq => imp_congr_right fun hadmits => ?_)
      (imp_congr_right fun hseq => ?_)
    · by_cases hempty : g.payload = []
      · have hnot : ¬ c.Takes lost g := fun h => h.2.1 hempty
        obtain ⟨-, hnxt, hst, -, -⟩ := TcpConn.hear_of_not_takes hopen hrst hnot
        have hkept : ¬ (g.payload ≠ [] ∧ lost = true) := fun h => h.1 hempty
        rw [if_neg hkept, if_pos ⟨hfin, hseq⟩] at hnxt
        rw [if_neg hkept, if_pos hfin] at hst
        rw [hnxt, hst, hempty]
        simp
      · obtain ⟨-, hnxt, -, -, -⟩ := TcpConn.hear_of_takes hopen hrst ⟨hseq, hempty, hadmits⟩
        rw [hnxt]
        simp [hempty]
    · have hnot : ¬ c.Takes lost g := fun h => hseq h.1
      obtain ⟨-, hnxt, hst, -, -⟩ := TcpConn.hear_of_not_takes hopen hrst hnot
      by_cases hkept : g.payload ≠ [] ∧ lost = true
      · rw [if_pos hkept] at hnxt hst
        exact ⟨fun _ => hkept, fun _ => ⟨hnxt, hst⟩⟩
      · rw [if_neg hkept, if_pos hfin] at hst
        rw [hst, hstate]
        exact ⟨fun h => (by cases h.2), fun h => absurd h hkept⟩

lemma tcpFindConn_spec {t : Tcp} {srcIp : UInt32} {srcPort dstPort : UInt16} {i : Fin 32}
    (h : tcpFindConn t srcIp srcPort dstPort = some i) : (t.conns i).used = true ∧
      (t.conns i).listening = false ∧ (t.conns i).remoteIp = srcIp ∧
      (t.conns i).remotePort = srcPort ∧ (t.conns i).localPort = dstPort ∧
      (t.conns i).state ≠ .closed := by
  have hprop := List.find?_some h
  simp only [Bool.and_eq_true, Bool.not_eq_true', beq_iff_eq, bne_iff_ne] at hprop
  obtain ⟨⟨⟨⟨⟨hused, hlistening⟩, hip⟩, hport⟩, hlocal⟩, hstate⟩ := hprop
  exact ⟨hused, hlistening, hip, hport, hlocal, hstate⟩

/-- A FIN at an established connection takes its place just when it is not behind a payload and
comes when it is due, or comes too early with a payload that is lost. -/
theorem finInSequence_iff {t : Tcp} {srcIp dstIp : UInt32} {tcp : List UInt8} {i : Fin 32}
    {g : TcpSegment} (harrives : t.Arrives srcIp dstIp tcp i g)
    (hstate : (t.conns i).state = .established) (hfin : g.has tcpFlagFin = true) :
    FinInSequence (t.conns i) ((netHandleTcpSegment t srcIp dstIp tcp).conns i)
      t.net.losesPayload g ↔
      (g.seq = (t.conns i).rcvNxt → (t.conns i).Admits t.net.losesPayload g →
        g.has tcpFlagRst = false ∧ g.payload = []) ∧
      (g.seq ≠ (t.conns i).rcvNxt →
        g.has tcpFlagRst = false ∧ g.payload ≠ [] ∧ t.net.losesPayload = true) := by
  obtain ⟨hused, hlistening, -⟩ := tcpFindConn_spec harrives.2
  rw [harrives.conns]
  exact TcpConn.hear_finInSequence ⟨hused, hlistening, Or.inl hstate⟩ hstate hfin

/-- What happens while a connection is read: a segment arrives, some connection is read, or
something else happens in the network stack. -/
inductive StreamOp where
  | segment (srcIp dstIp : UInt32) (tcp : List UInt8)
  | recv (i : Fin 32) (maxLen : Nat)
  | outside (net : Net)

def StreamOp.op : StreamOp → TcpOp
  | .segment srcIp dstIp tcp => .segment srcIp dstIp tcp
  | .recv i maxLen => .recv i maxLen
  | .outside net => .outside net

/-- The stack, with the bytes that an entry has given to its reader and those that it has
acknowledged; `kept` says that the connection has not been freed. -/
structure StreamState where
  tcp : Tcp
  returned : List UInt8
  acked : List UInt8
  kept : Bool

def StreamState.start (t : Tcp) : StreamState := ⟨t, [], [], true⟩

/-- The part of a payload that a step acknowledges, by moving `rcv_nxt` on. -/
def ackedBytes (e : ConnEvent) (c c' : TcpConn) : List UInt8 :=
  match e with
  | .hear _ g => g.payload.take (c'.rcvNxt - c.rcvNxt).toNat
  | _ => []

def returnedBytes (i : Fin 32) : StreamOp → TcpAnswer → List UInt8
  | .recv j _, .received data => if j = i then data else []
  | _, _ => []

namespace StreamState

/-- A step, as entry `i` sees it. -/
def step (i : Fin 32) (s : StreamState) (o : StreamOp) : StreamState × Unit :=
  let r := s.tcp.step o.op
  ({ tcp := r.1
     returned := s.returned ++ returnedBytes i o r.2
     acked := s.acked ++ ackedBytes (s.tcp.eventAt o.op i) (s.tcp.conns i) (r.1.conns i)
     kept := s.kept && (r.1.conns i).used }, ())

/-- What was returned and what is queued is what was queued first and what was acknowledged since.
-/
def Conserves (i : Fin 32) (first : List UInt8) (s : StreamState) : Prop :=
  s.kept = true → s.returned ++ (s.tcp.conns i).queued = first ++ s.acked

end StreamState

/-- A FIN stands at the next sequence number, and the payload before it is not taken. -/
def TcpConn.RefusesBeforeFin (c : TcpConn) (lost : Bool) (g : TcpSegment) : Prop :=
  g.has tcpFlagFin = true ∧ g.has tcpFlagRst = false ∧ g.seq = c.rcvNxt ∧ g.payload ≠ [] ∧
    lost = false ∧ ¬ c.Admits lost g

instance (c : TcpConn) (lost : Bool) (g : TcpSegment) : Decidable (c.RefusesBeforeFin lost g) :=
  inferInstanceAs (Decidable (_ ∧ _ ∧ _ ∧ _ ∧ _ ∧ _))

/-- A step that loses no bytes of entry `i`: the reader's buffer holds the oldest payload, and no
FIN comes behind a payload that is refused. -/
def StreamState.Keeps (i : Fin 32) (s : StreamState) (o : StreamOp) : Prop :=
  s.kept = true →
    match o with
    | .recv j maxLen => j = i → maxLen ≠ 0 →
        ∀ seg ∈ (s.tcp.conns i).rxQueue.toList.head?, seg.length ≤ maxLen
    | .segment srcIp dstIp tcp => ∀ g, s.tcp.Arrives srcIp dstIp tcp i g →
        ¬ (s.tcp.conns i).RefusesBeforeFin s.tcp.net.losesPayload g
    | .outside _ => True

section

variable {t : Tcp} {i : Fin 32} {c : TcpConn} {lost : Bool} {g : TcpSegment}

lemma netTcpRecv_conserves (hopen : (t.conns i).Open) (maxLen : Nat) :
    ((netTcpRecv t i maxLen).1.conns i).Open ∧ ∃ dropped,
      (t.conns i).queued =
        (netTcpRecv t i maxLen).2 ++ (dropped ++ ((netTcpRecv t i maxLen).1.conns i).queued) ∧
      (dropped = [] ↔ (maxLen ≠ 0 →
        ∀ seg ∈ (t.conns i).rxQueue.toList.head?, seg.length ≤ maxLen)) := by
  have hconn : ¬ ((!(t.conns i).used) = true ∨ (t.conns i).listening = true) := by
    simp [hopen.1, hopen.2.1]
  unfold netTcpRecv
  by_cases hmax : maxLen = 0
  · rw [if_pos hmax]
    exact ⟨hopen, [], rfl, by simp [hmax]⟩
  rw [if_neg hmax, if_neg hconn]
  by_cases hcount : 0 < (t.conns i).rxQueue.count
  · have hpop := (t.conns i).rxQueue.toList_pop
      ((t.conns i).rxQueue.slots (t.conns i).rxQueue.head) hcount
    rw [dif_pos hcount]
    generalize (t.conns i).rxQueue.slots (t.conns i).rxQueue.head = seg at hpop ⊢
    refine ⟨?_, seg.drop maxLen, ?_, ?_⟩
    · rw [Tcp.setConn_self]
      exact hopen
    · rw [Tcp.setConn_self, TcpConn.queued, hpop, List.flatten_cons, ← List.append_assoc,
        List.take_append_drop]
      rfl
    · rw [hpop, List.head?_cons, List.drop_eq_nil_iff]
      simp [hmax]
  · have hempty : (t.conns i).rxQueue.toList = [] :=
      ((t.conns i).rxQueue.toList_eq_nil_iff).2 (by omega)
    rw [dif_neg hcount, hempty]
    exact ⟨hopen, [], rfl, by simp⟩

/-- What is acknowledged is queued, unless it is a FIN that is taken for the payload before it. -/
lemma TcpConn.hear_conserves (hopen : c.Open) (hused : (c.hear lost g).used = true) :
    (c.hear lost g).Open ∧ ∃ missing,
      c.queued ++ ackedBytes (.hear lost g) c (c.hear lost g) = (c.hear lost g).queued ++ missing ∧
      (missing = [] ↔ ¬ c.RefusesBeforeFin lost g) := by
  cases hrst : g.has tcpFlagRst with
  | true =>
    rw [TcpConn.hear_of_rst hrst] at hused
    cases hused
  | false =>
    by_cases htakes : c.Takes lost g
    · obtain ⟨hqueued, hnxt, hstate, -, hlistening⟩ := TcpConn.hear_of_takes hopen hrst htakes
      refine ⟨⟨hused, hlistening.trans hopen.2.1, ?_⟩, [], ?_, ?_⟩
      · rw [hstate]
        split_ifs
        · exact Or.inr rfl
        · exact hopen.2.2
      · have hlen : (UInt32.ofNat g.payload.length).toNat = g.payload.length := by
          have := htakes.2.2.1
          unfold tcpMaxPayload at this
          exact UInt32.toNat_ofNat_of_lt' (by change _ < 4294967296; omega)
        rw [hqueued, ackedBytes, hnxt, add_sub_cancel_left, hlen, List.take_length,
          List.append_nil]
      · exact iff_of_true rfl fun h => h.2.2.2.2.2 htakes.2.2
    · obtain ⟨hqueue, hnxt, hstate, -, hlistening⟩ :=
        TcpConn.hear_of_not_takes hopen hrst htakes
      refine ⟨⟨hused, hlistening.trans hopen.2.1, ?_⟩,
        ackedBytes (.hear lost g) c (c.hear lost g), ?_, ?_⟩
      · rw [hstate]
        split_ifs
        · exact hopen.2.2
        · exact Or.inr rfl
        · exact hopen.2.2
      · rw [TcpConn.queued, TcpConn.queued, hqueue]
      · rw [ackedBytes, hnxt]
        by_cases hkept : g.payload ≠ [] ∧ lost = true
        · rw [if_pos hkept, sub_self]
          refine iff_of_true List.take_zero fun h => ?_
          rw [hkept.2] at h
          cases h.2.2.2.2.1
        rw [if_neg hkept]
        by_cases hfin : g.has tcpFlagFin = true ∧ g.seq = c.rcvNxt
        · have hone : (c.rcvNxt + 1 - c.rcvNxt).toNat = 1 := by
            rw [add_sub_cancel_left]
            rfl
          rw [if_pos hfin, hone, List.take_eq_nil_iff, or_iff_right one_ne_zero]
          refine ⟨fun hempty h => h.2.2.2.1 hempty, fun h => ?_⟩
          by_contra hne
          refine h ⟨hfin.1, hrst, hfin.2, hne, ?_, fun hadmits => htakes ⟨hfin.2, hne, hadmits⟩⟩
          exact Bool.eq_false_iff.2 fun hlost => hkept ⟨hne, hlost⟩
        · rw [if_neg hfin, sub_self]
          exact iff_of_true List.take_zero fun h => hfin ⟨h.1, h.2.2.1⟩

lemma Tcp.eventAt_segment (t : Tcp) (srcIp dstIp : UInt32) (tcp : List UInt8)
    (hused : (t.conns i).used = true) : t.eventAt (.segment srcIp dstIp tcp) i = .idle ∨
      ∃ g, t.Arrives srcIp dstIp tcp i g ∧
        t.eventAt (.segment srcIp dstIp tcp) i = .hear t.net.losesPayload g := by
  rcases t.eventAt_segment_cases srcIp dstIp tcp i with
    hidle | hhear | ⟨g, listener, -, -, -, -, hfree, -⟩
  · exact Or.inl hidle
  · exact Or.inr hhear
  · rw [tcpFreeConn_spec hfree] at hused
    cases hused

end

namespace StreamState

variable {i : Fin 32} {first : List UInt8} {s : StreamState}

/-- The connection is open as long as it is kept, and its bytes are all there. -/
def Sound (i : Fin 32) (first : List UInt8) (s : StreamState) : Prop :=
  s.kept = true → (s.tcp.conns i).Open ∧ s.returned ++ (s.tcp.conns i).queued = first ++ s.acked

lemma Sound.conserves (h : s.Sound i first) : s.Conserves i first := fun hkept => (h hkept).2

lemma step_idle (hopen : (s.tcp.conns i).Open)
    (hlaw : s.returned ++ (s.tcp.conns i).queued = first ++ s.acked) {o : StreamOp}
    (hidle : s.tcp.eventAt o.op i = .idle)
    (hreturned : returnedBytes i o (s.tcp.step o.op).2 = []) :
    (s.step i o).1.Sound i first := by
  have hconn : (s.tcp.step o.op).1.conns i = s.tcp.conns i := by
    rw [Tcp.step_conns, hidle]
    rfl
  intro _
  simp only [step, hconn, hidle, hreturned, List.append_nil, ackedBytes]
  exact ⟨hopen, hlaw⟩

lemma step_recv (hkept : s.kept = true) (hopen : (s.tcp.conns i).Open)
    (hlaw : s.returned ++ (s.tcp.conns i).queued = first ++ s.acked) (maxLen : Nat) :
    (s.Keeps i (.recv i maxLen) → (s.step i (.recv i maxLen)).1.Sound i first) ∧
      ((s.step i (.recv i maxLen)).1.Conserves i first → s.Keeps i (.recv i maxLen)) := by
  obtain ⟨hopen', dropped, hqueued, hdropped⟩ := netTcpRecv_conserves hopen maxLen
  have hacked : ∀ c', ackedBytes (s.tcp.eventAt (.recv i maxLen) i) (s.tcp.conns i) c' = [] := by
    intro c'
    unfold Tcp.eventAt
    dsimp only
    split_ifs <;> rfl
  have hkeeps : s.Keeps i (.recv i maxLen) ↔ dropped = [] := by
    rw [hdropped]
    exact ⟨fun h => h hkept rfl, fun h _ _ => h⟩
  have hstep : (s.step i (.recv i maxLen)).1 = ⟨(netTcpRecv s.tcp i maxLen).1,
      s.returned ++ (netTcpRecv s.tcp i maxLen).2, s.acked,
      s.kept && ((netTcpRecv s.tcp i maxLen).1.conns i).used⟩ := by
    simp only [step, StreamOp.op, hacked, List.append_nil, returnedBytes, Tcp.step, if_true]
  rw [hkeeps, hstep]
  constructor
  · rintro rfl _
    refine ⟨hopen', ?_⟩
    rw [← hlaw, hqueued, List.append_assoc]
    rfl
  · intro hconserves
    have hall := hconserves (by simp [hkept, hopen'.1])
    rw [← hlaw, hqueued, List.append_assoc, List.append_cancel_left_eq,
      List.append_cancel_left_eq] at hall
    exact List.append_left_eq_self.1 hall.symm

lemma step_hear (hkept : s.kept = true) (hopen : (s.tcp.conns i).Open)
    (hlaw : s.returned ++ (s.tcp.conns i).queued = first ++ s.acked) {srcIp dstIp : UInt32}
    {tcp : List UInt8} {g : TcpSegment} (harrives : s.tcp.Arrives srcIp dstIp tcp i g)
    (hevent : s.tcp.eventAt (.segment srcIp dstIp tcp) i = .hear s.tcp.net.losesPayload g) :
    (s.Keeps i (.segment srcIp dstIp tcp) → (s.step i (.segment srcIp dstIp tcp)).1.Sound i first) ∧
      ((s.step i (.segment srcIp dstIp tcp)).1.Conserves i first →
        s.Keeps i (.segment srcIp dstIp tcp)) := by
  have hconn : (s.tcp.step (.segment srcIp dstIp tcp)).1.conns i =
      (s.tcp.conns i).hear s.tcp.net.losesPayload g := by
    rw [Tcp.step_conns, hevent]
    rfl
  have hkeeps : s.Keeps i (.segment srcIp dstIp tcp) ↔
      ¬ (s.tcp.conns i).RefusesBeforeFin s.tcp.net.losesPayload g := by
    refine ⟨fun h => h hkept g harrives, fun h _ g' harrives' => ?_⟩
    rwa [Option.some.inj (harrives'.1.symm.trans harrives.1)]
  rw [hkeeps]
  simp only [step, StreamOp.op, hconn, hevent, returnedBytes, List.append_nil, Sound, Conserves,
    hkept,
    Bool.true_and]
  by_cases hused : ((s.tcp.conns i).hear s.tcp.net.losesPayload g).used = true
  · obtain ⟨hopen', missing, hbytes, hmissing⟩ := TcpConn.hear_conserves hopen hused
    rw [← hmissing]
    constructor
    · rintro rfl _
      refine ⟨hopen', ?_⟩
      rw [← List.append_assoc, ← hlaw, List.append_assoc, hbytes, List.append_nil]
    · intro h
      have hall := h hused
      rw [← List.append_assoc, ← hlaw, List.append_assoc, hbytes,
        List.append_cancel_left_eq] at hall
      exact List.append_right_eq_self.1 hall.symm
  · refine ⟨fun _ h => absurd h hused, fun _ hrefuses => hused ?_⟩
    have hnot : ¬ (s.tcp.conns i).Takes s.tcp.net.losesPayload g := fun h =>
      hrefuses.2.2.2.2.2 h.2.2
    obtain ⟨-, -, -, hsame, -⟩ := TcpConn.hear_of_not_takes hopen hrefuses.2.1 hnot
    exact hsame.trans hopen.1

lemma Sound.step_iff (h : s.Sound i first) (o : StreamOp) :
    (s.Keeps i o → (s.step i o).1.Sound i first) ∧
      ((s.step i o).1.Conserves i first → s.Keeps i o) := by
  cases hkept : s.kept with
  | false =>
    refine ⟨fun _ h' => ?_, fun _ h' => ?_⟩
    · simp [step, hkept] at h'
    · rw [hkept] at h'
      cases h'
  | true =>
    obtain ⟨hopen, hlaw⟩ := h hkept
    cases o with
    | outside net => exact ⟨fun _ => step_idle hopen hlaw rfl rfl, fun _ _ => trivial⟩
    | recv j maxLen =>
      by_cases hj : j = i
      · subst hj
        exact step_recv hkept hopen hlaw maxLen
      · refine ⟨fun _ => step_idle hopen hlaw (if_neg fun h => hj h.1) (if_neg hj),
          fun _ _ h' => ?_⟩
        exact absurd h' hj
    | segment srcIp dstIp tcp =>
      rcases s.tcp.eventAt_segment srcIp dstIp tcp hopen.1 with hidle | ⟨g, harrives, hevent⟩
      · refine ⟨fun _ => step_idle hopen hlaw hidle rfl, fun _ _ g harrives => ?_⟩
        rw [harrives.eventAt] at hidle
        cases hidle
      · exact step_hear hkept hopen hlaw harrives hevent

end StreamState

/-- From an established connection on: as long as it is not freed, the bytes that were returned and
those that are queued are the ones that were acknowledged, just when every step keeps them. -/
theorem stream_conserved_iff {t : Tcp} {i : Fin 32} (hused : (t.conns i).used = true)
    (hlistening : (t.conns i).listening = false) (hstate : (t.conns i).state = .established)
    (os : List StreamOp) :
    (∀ pre, pre <+: os → (Machine.run (StreamState.step i) (.start t) pre).Conserves i
        (t.conns i).queued) ↔
      Machine.Runs (StreamState.Keeps i) (StreamState.step i) (.start t) os := by
  have hstart : (StreamState.start t).Sound i (t.conns i).queued := fun _ =>
    ⟨⟨hused, hlistening, Or.inl hstate⟩, (List.append_nil _).symm⟩
  exact Machine.runs_iff_forall_prefix (fun _ o hs => (hs.step_iff o).1)
    (fun _ hs => hs.conserves) (fun _ o hs => (hs.step_iff o).2) hstart os

/-- A segment from port 80 of 10.0.2.16. -/
def segmentFrom80 (seq : UInt32) (flags : UInt8) (payload : List UInt8) : List UInt8 :=
  tcpSegment 0x0A000210 0x0A00020F 80 40000 seq 0x10203041 flags payload

/-- A connection with this port that is established; the next sequence number is 5001. -/
def establishedTcp : Tcp :=
  Machine.run Tcp.step Sockets.booted.tcp [.connect 0x0A000210 80 40000,
    .segment 0x0A000210 0x0A00020F (segmentFrom80 5000 (tcpFlagSyn ||| tcpFlagAck) [])]

lemma establishedTcp_state : (establishedTcp.conns 0).state = .established := by decide +kernel

/-- A FIN alone takes its place. -/
theorem finInSequence_alone :
    FinInSequence (establishedTcp.conns 0)
        ((netHandleTcpSegment establishedTcp 0x0A000210 0x0A00020F
          (segmentFrom80 5001 (tcpFlagFin ||| tcpFlagAck) [])).conns 0)
        establishedTcp.net.losesPayload ⟨80, 40000, 5001, 0x10203041,
          tcpFlagFin ||| tcpFlagAck, []⟩ ↔
      ((5001 : UInt32) = (establishedTcp.conns 0).rcvNxt →
        (establishedTcp.conns 0).Admits establishedTcp.net.losesPayload
          ⟨80, 40000, 5001, 0x10203041, tcpFlagFin ||| tcpFlagAck, []⟩ →
        hasFlag (tcpFlagFin ||| tcpFlagAck) tcpFlagRst = false ∧ ([] : List UInt8) = []) ∧
      ((5001 : UInt32) ≠ (establishedTcp.conns 0).rcvNxt →
        hasFlag (tcpFlagFin ||| tcpFlagAck) tcpFlagRst = false ∧ ([] : List UInt8) ≠ [] ∧
          establishedTcp.net.losesPayload = true) := by
  have harrives : establishedTcp.Arrives 0x0A000210 0x0A00020F
      (segmentFrom80 5001 (tcpFlagFin ||| tcpFlagAck) []) 0
      ⟨80, 40000, 5001, 0x10203041, tcpFlagFin ||| tcpFlagAck, []⟩ :=
    ⟨by decide +kernel, by decide +kernel⟩
  exact finInSequence_iff harrives establishedTcp_state (by decide)

/-- A FIN behind two bytes is not counted (5001 becomes 5003), and one that comes ten bytes too
early closes the connection. -/
theorem fin_out_of_sequence :
    ((establishedTcp.conns 0).state = .established ∧ (establishedTcp.conns 0).rcvNxt = 5001) ∧
    ((netHandleTcpSegment establishedTcp 0x0A000210 0x0A00020F
        (segmentFrom80 5001 (tcpFlagFin ||| tcpFlagAck) [104, 105])).conns 0).rcvNxt = 5003 ∧
    ¬ FinInSequence (establishedTcp.conns 0)
      ((netHandleTcpSegment establishedTcp 0x0A000210 0x0A00020F
        (segmentFrom80 5001 (tcpFlagFin ||| tcpFlagAck) [104, 105])).conns 0)
      establishedTcp.net.losesPayload
      ⟨80, 40000, 5001, 0x10203041, tcpFlagFin ||| tcpFlagAck, [104, 105]⟩ ∧
    ¬ FinInSequence (establishedTcp.conns 0)
      ((netHandleTcpSegment establishedTcp 0x0A000210 0x0A00020F
        (segmentFrom80 5011 (tcpFlagFin ||| tcpFlagAck) [])).conns 0)
      establishedTcp.net.losesPayload
      ⟨80, 40000, 5011, 0x10203041, tcpFlagFin ||| tcpFlagAck, []⟩ := by
  have hnxt : (establishedTcp.conns 0).rcvNxt = 5001 := by decide +kernel
  have hbehind : ((netHandleTcpSegment establishedTcp 0x0A000210 0x0A00020F
      (segmentFrom80 5001 (tcpFlagFin ||| tcpFlagAck) [104, 105])).conns 0).rcvNxt = 5003 := by
    decide +kernel
  have hearly : ((netHandleTcpSegment establishedTcp 0x0A000210 0x0A00020F
      (segmentFrom80 5011 (tcpFlagFin ||| tcpFlagAck) [])).conns 0).state = .closeWait := by
    decide +kernel
  refine ⟨⟨establishedTcp_state, hnxt⟩, hbehind, fun h => ?_, fun h => ?_⟩
  · have hadmits : (establishedTcp.conns 0).Admits establishedTcp.net.losesPayload
        ⟨80, 40000, 5001, 0x10203041, tcpFlagFin ||| tcpFlagAck, [104, 105]⟩ := by decide +kernel
    have hcounted := (h.1 hnxt.symm hadmits).1
    rw [hbehind, hnxt] at hcounted
    exact absurd hcounted (by decide)
  · have hne : (5011 : UInt32) ≠ (establishedTcp.conns 0).rcvNxt := by
      rw [hnxt]
      decide
    have hsame := (h.2 hne).2
    rw [hearly, establishedTcp_state] at hsame
    cases hsame

/-- Two bytes arrive and are read into a buffer of a given size. -/
def readRun (maxLen : Nat) : List StreamOp :=
  [.segment 0x0A000210 0x0A00020F (segmentFrom80 5001 tcpFlagAck [104, 105]), .recv 0 maxLen]

/-- Up to 16 bytes are read at a time. -/
theorem stream_conserved_sixteen :
    (∀ pre, pre <+: readRun 16 →
      (Machine.run (StreamState.step 0) (.start establishedTcp) pre).Conserves
        0 (establishedTcp.conns 0).queued) ↔
      Machine.Runs (StreamState.Keeps 0) (StreamState.step 0) (.start establishedTcp)
        (readRun 16) :=
  stream_conserved_iff (by decide +kernel) (by decide +kernel) establishedTcp_state (readRun 16)

/-- With a buffer of one byte the second byte is acknowledged and lost. -/
theorem stream_byte_lost :
    (Machine.run (StreamState.step 0) (.start establishedTcp) (readRun 1)).acked = [104, 105] ∧
      (Machine.run (StreamState.step 0) (.start establishedTcp) (readRun 1)).returned = [104] ∧
      ((Machine.run (StreamState.step 0) (.start establishedTcp)
        (readRun 1)).tcp.conns 0).queued = [] ∧
      ¬ (Machine.run (StreamState.step 0) (.start establishedTcp) (readRun 1)).Conserves 0
        (establishedTcp.conns 0).queued := by
  have hacked : (Machine.run (StreamState.step 0) (.start establishedTcp) (readRun 1)).acked =
      [104, 105] := by decide +kernel
  have hreturned : (Machine.run (StreamState.step 0) (.start establishedTcp) (readRun 1)).returned =
      [104] := by decide +kernel
  have hqueued : ((Machine.run (StreamState.step 0) (.start establishedTcp)
      (readRun 1)).tcp.conns 0).queued = [] := by decide +kernel
  have hfirst : (establishedTcp.conns 0).queued = [] := by decide +kernel
  refine ⟨hacked, hreturned, hqueued, fun h => ?_⟩
  have hall := h (by decide +kernel)
  rw [hacked, hreturned, hqueued, hfirst] at hall
  cases hall

end NeuroSpark
