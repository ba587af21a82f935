import NeuroSpark.Lib.Machine
import NeuroSpark.Net.Connections

/-!
# A socket and its connection

A socket holds the index of an entry of the table of TCP. The entry may be freed without the socket
being told, and taken again for another connection. As long as no entry is taken that a socket still
holds, each socket uses the connection with its own peer, and that connection alone.
-/

namespace NeuroSpark

open Network

def NsSocketEntry.peer (e : NsSocketEntry) : Peer := (e.peerIp, e.peerPort)

/-- What has arrived: the sender of each segment, and its payload. -/
abbrev Heard := List (Peer × List UInt8)

namespace Sockets

/-- A socket holds an entry of the table, whether the entry is used or not. -/
def Holds (s : Sockets) (task : Fin 8) (slot : Fin 64) (i : Fin 32) : Prop :=
  (s.taskSockets task slot).used = true ∧ (s.taskSockets task slot).netConnId = some i

instance (s : Sockets) (task : Fin 8) (slot : Fin 64) (i : Fin 32) :
    Decidable (s.Holds task slot i) :=
  inferInstanceAs (Decidable (_ ∧ _))

/-- The entries that sockets hold are theirs. -/
structure Sound (s : Sockets) (log : Heard) : Prop where
  types : ∀ task slot, (s.taskSockets task slot).used = true →
    (s.taskSockets task slot).type = nsSockStream ∨ (s.taskSockets task slot).type = nsSockDgram
  stream : ∀ task slot i, s.Holds task slot i → (s.taskSockets task slot).type = nsSockStream
  own : ∀ task slot i, s.Holds task slot i → (s.tcp.conns i).used = true →
    (s.tcp.conns i).accepted = true ∧
      (s.tcp.conns i).listening = (s.taskSockets task slot).listening ∧
      ((s.tcp.conns i).listening = false → (s.tcp.conns i).peer = (s.taskSockets task slot).peer)
  unique : ∀ task slot task' slot' i, s.Holds task slot i → s.Holds task' slot' i →
    task' = task ∧ slot' = slot
  heard : ∀ i, (s.tcp.conns i).used = true → (s.tcp.conns i).listening = false →
    ∀ bytes ∈ (s.tcp.conns i).rxQueue.toList, ((s.tcp.conns i).peer, bytes) ∈ log

section

variable {s : Sockets} {log : Heard} {task : Fin 8} {slot : Fin 64} {t : Tcp} {i : Fin 32}

/-! ### Entries -/

@[simp] lemma setEntry_tcp (s : Sockets) (task : Fin 8) (slot : Fin 64) (e : NsSocketEntry) :
    (s.setEntry task slot e).tcp = s.tcp := rfl

@[simp] lemma setEntry_self (s : Sockets) (task : Fin 8) (slot : Fin 64) (e : NsSocketEntry) :
    (s.setEntry task slot e).taskSockets task slot = e := by simp [setEntry]

lemma setEntry_of_ne (s : Sockets) {task task' : Fin 8} {slot slot' : Fin 64}
    (h : ¬ (task' = task ∧ slot' = slot)) (e : NsSocketEntry) :
    (s.setEntry task slot e).taskSockets task' slot' = s.taskSockets task' slot' := by
  unfold setEntry
  by_cases htask : task' = task
  · subst htask
    have hslot : slot' ≠ slot := fun hslot => h ⟨rfl, hslot⟩
    simp [hslot]
  · simp [htask]

@[simp] lemma withTcp_tcp (s : Sockets) (t : Tcp) : (s.withTcp t).tcp = t := rfl

@[simp] lemma setConnecting_tcp (s : Sockets) (task : Fin 8) (w : Option Connecting) :
    (s.setConnecting task w).tcp = s.tcp := rfl

section

variable (h : s.Sound log)
include h

lemma Sound.mono {log' : Heard} (hsub : ∀ x ∈ log, x ∈ log') : s.Sound log' :=
  ⟨h.types, h.stream, h.own, h.unique, fun i hi hlistening bytes hbytes =>
    hsub _ (h.heard i hi hlistening bytes hbytes)⟩

lemma Sound.setEntry {e : NsSocketEntry}
    (htypes : e.used = true → e.type = nsSockStream ∨ e.type = nsSockDgram)
    (hstream : e.used = true → e.netConnId ≠ none → e.type = nsSockStream)
    (hown : ∀ i, e.used = true → e.netConnId = some i → (s.tcp.conns i).used = true →
      (s.tcp.conns i).accepted = true ∧ (s.tcp.conns i).listening = e.listening ∧
        ((s.tcp.conns i).listening = false → (s.tcp.conns i).peer = e.peer))
    (hother : ∀ i, e.used = true → e.netConnId = some i → ∀ task' slot', s.Holds task' slot' i →
      task' = task ∧ slot' = slot) :
    (s.setEntry task slot e).Sound log := by
  have hholds : ∀ task' slot' i, (s.setEntry task slot e).Holds task' slot' i →
      ((task' = task ∧ slot' = slot) ∧ e.used = true ∧ e.netConnId = some i) ∨
        (¬ (task' = task ∧ slot' = slot) ∧ s.Holds task' slot' i) := by
    intro task' slot' i hheld
    by_cases hsame : task' = task ∧ slot' = slot
    · obtain ⟨rfl, rfl⟩ := hsame
      rw [Holds, setEntry_self] at hheld
      exact Or.inl ⟨⟨rfl, rfl⟩, hheld⟩
    · rw [Holds, setEntry_of_ne s hsame] at hheld
      exact Or.inr ⟨hsame, hheld⟩
  refine ⟨fun task' slot' hused => ?_, fun task' slot' i hheld => ?_,
    fun task' slot' i hheld hused => ?_, fun task₁ slot₁ task₂ slot₂ i h₁ h₂ => ?_, h.heard⟩
  · by_cases hsame : task' = task ∧ slot' = slot
    · obtain ⟨rfl, rfl⟩ := hsame
      rw [setEntry_self] at hused ⊢
      exact htypes hused
    · rw [setEntry_of_ne s hsame] at hused ⊢
      exact h.types task' slot' hused
  · rcases hholds task' slot' i hheld with ⟨⟨rfl, rfl⟩, hu, hid⟩ | ⟨hne, hheld'⟩
    · rw [setEntry_self]
      exact hstream hu (by rw [hid]; simp)
    · rw [setEntry_of_ne s hne]
      exact h.stream task' slot' i hheld'
  · rcases hholds task' slot' i hheld with ⟨⟨rfl, rfl⟩, hu, hid⟩ | ⟨hne, hheld'⟩
    · rw [setEntry_self]
      exact hown i hu hid hused
    · rw [setEntry_of_ne s hne]
      exact h.own task' slot' i hheld' hused
  · rcases hholds task₁ slot₁ i h₁ with ⟨⟨rfl, rfl⟩, hu, hid⟩ | ⟨hne, hheld⟩
    · rcases hholds task₂ slot₂ i h₂ with ⟨hsame, -⟩ | ⟨-, hheld'⟩
      · exact hsame
      · exact hother i hu hid task₂ slot₂ hheld'
    · rcases hholds task₂ slot₂ i h₂ with ⟨hsame, hu, hid⟩ | ⟨-, hheld'⟩
      · exact absurd (hother i hu hid task₁ slot₁ hheld) hne
      · exact h.unique task₁ slot₁ task₂ slot₂ i hheld hheld'

lemma Sound.setEntry_same {e : NsSocketEntry}
    (hused : e.used = true → (s.taskSockets task slot).used = true)
    (htype : e.type = (s.taskSockets task slot).type)
    (hid : e.netConnId = (s.taskSockets task slot).netConnId)
    (hlistening : e.listening = (s.taskSockets task slot).listening)
    (hpeer : e.netConnId ≠ none → e.peer = (s.taskSockets task slot).peer) :
    (s.setEntry task slot e).Sound log := by
  refine h.setEntry (fun hu => htype ▸ h.types task slot (hused hu)) (fun hu hne => ?_)
    (fun i hu hi hconn => ?_) fun i hu hi task' slot' hheld => ?_
  · obtain ⟨i, hi⟩ := Option.ne_none_iff_exists'.1 hne
    rw [htype]
    exact h.stream task slot i ⟨hused hu, hid ▸ hi⟩
  · rw [hlistening, hpeer (by rw [hi]; simp)]
    exact h.own task slot i ⟨hused hu, hid ▸ hi⟩ hconn
  · exact h.unique task slot task' slot' i ⟨hused hu, hid ▸ hi⟩ hheld

lemma Sound.setEntry_closed : (s.setEntry task slot .closed).Sound log :=
  h.setEntry (fun hu => by cases hu) (fun hu => by cases hu) (fun i hu => by cases hu) fun i hu =>
    by cases hu

lemma Sound.withTcp_conns (hconns : t.conns = s.tcp.conns) : (s.withTcp t).Sound log := by
  obtain ⟨htypes, hstream, hown, hunique, hheard⟩ := h
  rw [← hconns] at hown hheard
  exact ⟨htypes, hstream, hown, hunique, hheard⟩

lemma Sound.withTcp_acts {extra : Set (List UInt8)} (hact : s.tcp.Acts t i extra)
    (hextra : ∀ bytes ∈ extra, ((s.tcp.conns i).peer, bytes) ∈ log) : (s.withTcp t).Sound log := by
  refine ⟨h.types, h.stream, fun task' slot' j hheld hused => ?_, h.unique,
    fun j hused hlistening bytes hbytes => ?_⟩
  · rw [withTcp_tcp] at hused ⊢
    by_cases hj : j = i
    · subst hj
      rw [hact.accepted, hact.listening, hact.peer]
      exact h.own task' slot' j hheld (hact.used hused)
    · rw [hact.other j hj] at hused ⊢
      exact h.own task' slot' j hheld hused
  · rw [withTcp_tcp] at hused hlistening hbytes ⊢
    by_cases hj : j = i
    · subst hj
      rw [hact.peer]
      rcases hact.queue bytes hbytes with hold | hnew
      · exact h.heard j (hact.used hused) (hact.listening ▸ hlistening) bytes hold
      · exact hextra bytes hnew
    · rw [hact.other j hj] at hused hlistening hbytes ⊢
      exact h.heard j hused hlistening bytes hbytes

lemma Sound.withTcp_takes {peer : Peer} (htakes : s.tcp.Takes t i peer)
    (hfree : ∀ task' slot', ¬ s.Holds task' slot' i) : (s.withTcp t).Sound log := by
  refine ⟨h.types, h.stream, fun task' slot' j hheld hused => ?_, h.unique,
    fun j hused hlistening bytes hbytes => ?_⟩
  · have hj : j ≠ i := fun hj => hfree task' slot' (hj ▸ hheld)
    rw [withTcp_tcp, htakes.other j hj] at hused ⊢
    exact h.own task' slot' j hheld hused
  · rw [withTcp_tcp] at hused hlistening hbytes ⊢
    by_cases hj : j = i
    · rw [hj, htakes.queue] at hbytes
      cases hbytes
    · rw [htakes.other j hj] at hused hlistening hbytes ⊢
      exact h.heard j hused hlistening bytes hbytes

lemma Sound.netTcpClose (i : Fin 32) : (s.withTcp (netTcpClose s.tcp i)).Sound log :=
  have hact : s.tcp.Acts (NeuroSpark.netTcpClose s.tcp i) i ∅ := netTcpClose_acts s.tcp i
  h.withTcp_acts hact fun _ hbytes => hbytes.elim

lemma Sound.netTcpUnlisten (port : UInt16) : (s.withTcp (netTcpUnlisten s.tcp port)).Sound log := by
  rcases netTcpUnlisten_acts s.tcp port with hsame | ⟨i, -, -, hact⟩
  · exact h.withTcp_conns (congrArg Tcp.conns hsame)
  · exact h.withTcp_acts hact fun bytes hbytes => hbytes.elim

lemma Sound.closeEntry : (s.closeEntry task slot).Sound log := by
  unfold Sockets.closeEntry
  dsimp only
  split
  · exact h
  generalize ht : (if (s.taskSockets task slot).type = nsSockDgram ∧
    (s.taskSockets task slot).bound = true then _ else _ : Tcp) = t
  have hudp : (s.withTcp t).Sound log := by
    refine h.withTcp_conns ?_
    rw [← ht]
    split <;> rfl
  refine Sound.setEntry_closed ?_
  split
  · split
    · exact hudp.netTcpUnlisten _
    · split
      · exact hudp
      · exact hudp.netTcpClose _
  · exact hudp

lemma Sound.closeAllForTask (task : Fin 8) : (s.closeAllForTask task).Sound log := by
  unfold Sockets.closeAllForTask
  induction List.finRange 64 generalizing s with
  | nil => exact h
  | cons slot slots ih => exact ih h.closeEntry

/-! ### Calls -/

omit h in
lemma allocFd_spec {type protocol : Int} {slot : Fin 64}
    (h : (s.allocFd task type protocol).2 = some slot) :
    (s.allocFd task type protocol).1 = s.setEntry task slot
        { NsSocketEntry.closed with used := true, type := type, protocol := protocol } ∧
      (s.taskSockets task slot).used = false := by
  unfold allocFd at h ⊢
  cases hfree : s.freeSlot task with
  | none => simp [hfree] at h
  | some slot' =>
    simp only [hfree, Option.some.injEq] at h ⊢
    subst h
    exact ⟨rfl, by simpa using List.find?_some hfree⟩

omit h in
lemma allocFd_none {type protocol : Int} (h : (s.allocFd task type protocol).2 = none) :
    (s.allocFd task type protocol).1 = s := by
  unfold allocFd at h ⊢
  cases hfree : s.freeSlot task with
  | none => rfl
  | some slot' => simp [hfree] at h

lemma Sound.allocFd {type : Int} (htype : type = nsSockStream ∨ type = nsSockDgram)
    (protocol : Int) : (s.allocFd task type protocol).1.Sound log := by
  cases hslot : (s.allocFd task type protocol).2 with
  | none => rwa [allocFd_none hslot]
  | some slot =>
    rw [(allocFd_spec hslot).1]
    exact h.setEntry (fun _ => htype) (fun _ hi => absurd rfl hi)
      (fun i _ hi => by cases hi) fun i _ hi => by cases hi

omit h in
lemma entryForFd_used {fd : Int} (h : s.entryForFd task fd = some slot) :
    (s.taskSockets task slot).used = true := by
  rw [entryForFd, Option.filter_eq_some_iff] at h
  exact h.2

/-- A call that takes an entry of the table of TCP. -/
def TakesEntry (s : Sockets) : SocketOp → Prop
  | .call task (.listen fd) => s.connecting task = none ∧ ∃ slot, s.entryForFd task fd = some slot ∧
      (s.taskSockets task slot).type = nsSockStream ∧ (s.taskSockets task slot).bound = true ∧
      (s.taskSockets task slot).localPort ≠ 0 ∧
      tcpFindListener s.tcp (s.taskSockets task slot).localPort = none
  | .call task (.connect fd family ip port) => s.connecting task = none ∧
      ∃ slot, s.entryForFd task fd = some slot ∧ (s.taskSockets task slot).type ≠ nsSockDgram ∧
        family = nsAfInet ∧ ip ≠ 0 ∧ port ≠ 0 ∧
        ((s.taskSockets task slot).bound = true → (s.taskSockets task slot).localPort ≠ 0)
  | .frame bytes => ∃ d, segmentOf s.tcp.net bytes = some d ∧ TcpRequest s.tcp d
  | _ => False

/-- A step that takes no entry that a socket still holds. -/
def NoReuse (s : Sockets) (o : SocketOp) : Prop :=
  s.TakesEntry o → ∀ i, tcpFreeConn s.tcp = some i → ∀ task slot, ¬ s.Holds task slot i

/-- What a step brings from the network. -/
def hears (s : Sockets) : SocketOp → Heard
  | .frame bytes => ((segmentOf s.tcp.net bytes).map segmentHeard).toList
  | _ => []

lemma Sound.sysSocket (domain type protocol : Int) :
    (s.sysSocket task domain type protocol).1.Sound log := by
  unfold Sockets.sysSocket
  split
  · exact h
  · rename_i hargs
    have htype : type = nsSockStream ∨ type = nsSockDgram := by
      by_contra hne
      exact hargs (Or.inr (not_or.1 hne))
    have halloc : (s.allocFd task type protocol).1.Sound log := h.allocFd htype protocol
    rcases hr : s.allocFd task type protocol with ⟨s', _ | slot⟩ <;> rw [hr] at halloc
    · exact halloc
    · exact halloc

lemma Sound.sysBind (fd family : Int) (port : UInt16) :
    (s.sysBind task fd family port).1.Sound log := by
  unfold Sockets.sysBind
  cases hfd : s.entryForFd task fd with
  | none => exact h
  | some slot =>
    have hused := entryForFd_used hfd
    dsimp only
    split
    · exact h
    · split
      · have hnet : (s.withTcp { s.tcp with net := (netUdpBind s.tcp.net port).1 }).Sound log :=
          h.withTcp_conns rfl
        split
        · exact hnet.setEntry_same (fun _ => hused) rfl rfl rfl fun _ => rfl
        · exact hnet
      · exact h.setEntry_same (fun _ => hused) rfl rfl rfl fun _ => rfl

lemma Sound.setConnecting (w : Option Connecting) : (s.setConnecting task w).Sound log :=
  ⟨h.types, h.stream, h.own, h.unique, h.heard⟩

lemma Sound.connectRound (w : Connecting) : (s.connectRound task w).1.Sound log := by
  unfold Sockets.connectRound
  split
  · exact h.setConnecting none
  split
  · exact h.setConnecting none
  · exact h.setConnecting (some w)

lemma Sound.wake : (s.wake task).1.Sound log := by
  unfold Sockets.wake
  cases s.connecting task with
  | none => exact h
  | some w => exact h.connectRound w

lemma Sound.sysListen (hwait : s.connecting task = none) {fd : Int}
    (hok : s.NoReuse (.call task (.listen fd))) :
    (s.sysListen task fd).1.Sound log := by
  unfold Sockets.sysListen
  cases hfd : s.entryForFd task fd with
  | none => exact h
  | some slot =>
    dsimp only
    split
    · exact h
    rename_i hargs
    obtain ⟨htype, hbound⟩ : (s.taskSockets task slot).type = nsSockStream ∧
        (s.taskSockets task slot).bound = true := by simpa [not_or] using hargs
    obtain ⟨hsome, hnone⟩ := netTcpListen_takes s.tcp (s.taskSockets task slot).localPort (0, 0)
    rcases hlisten : netTcpListen s.tcp (s.taskSockets task slot).localPort with ⟨t, _ | i⟩
    · rw [hlisten] at hnone
      exact h.withTcp_conns (congrArg Tcp.conns (hnone rfl))
    · rw [hlisten] at hsome
      obtain ⟨⟨hport, hnolistener⟩, hfree, htakes, haccepted, hlistening⟩ := hsome i rfl
      have hnot := hok ⟨hwait, slot, hfd, htype, hbound, hport, hnolistener⟩ i hfree
      refine (h.withTcp_takes htakes hnot).setEntry (fun _ => Or.inl htype) (fun _ _ => htype) ?_ ?_
      · rintro i _ ⟨rfl⟩ _
        exact ⟨haccepted, hlistening, fun hl => by rw [withTcp_tcp, hlistening] at hl; cases hl⟩
      · rintro i _ ⟨rfl⟩ task' slot' hheld
        exact absurd hheld (hnot task' slot')

lemma Sound.sysConnect (hwait : s.connecting task = none) {fd family : Int} {ip : UInt32}
    {port : UInt16} (hok : s.NoReuse (.call task (.connect fd family ip port))) :
    (s.sysConnect task fd family ip port).1.Sound log := by
  unfold Sockets.sysConnect
  cases hfd : s.entryForFd task fd with
  | none => exact h
  | some slot =>
    have hused := entryForFd_used hfd
    dsimp only
    split
    · exact h
    rename_i hargs
    split
    · rename_i hdgram
      refine h.setEntry_same (fun _ => hused) rfl rfl rfl fun hid => ?_
      obtain ⟨i, hi⟩ := Option.ne_none_iff_exists'.1 hid
      rw [h.stream task slot i ⟨hused, hi⟩] at hdgram
      cases hdgram
    rename_i htype
    generalize he : (if (s.taskSockets task slot).bound = true then s.taskSockets task slot else
      { s.taskSockets task slot with
        bound := true, localPort := UInt16.ofNat (40000 + task.val) }) = e
    obtain ⟨heused, hetype, heid, helistening, hepeer, heport⟩ :
        e.used = (s.taskSockets task slot).used ∧ e.type = (s.taskSockets task slot).type ∧
        e.netConnId = (s.taskSockets task slot).netConnId ∧
        e.listening = (s.taskSockets task slot).listening ∧ e.peer = (s.taskSockets task slot).peer ∧
        ((s.taskSockets task slot).bound = true →
          e.localPort = (s.taskSockets task slot).localPort) := by
      rw [← he]
      split
      · exact ⟨rfl, rfl, rfl, rfl, rfl, fun _ => rfl⟩
      · rename_i hnot
        exact ⟨rfl, rfl, rfl, rfl, rfl, fun hb => absurd hb hnot⟩
    have hfree : e.localPort ≠ 0 → ∀ i, tcpFreeConn s.tcp = some i → ∀ task slot,
      ¬ s.Holds task slot i := by
      intro hport
      refine hok ⟨hwait, slot, hfd, htype, ?_, ?_, ?_, fun hbound => ?_⟩
      · exact not_not.1 fun hf => hargs (Or.inl hf)
      · exact fun hip => hargs (Or.inr (Or.inr hip))
      · exact fun hp => hargs (Or.inr (Or.inl hp))
      · rwa [← heport hbound]
    obtain ⟨hsome, hnone⟩ := netTcpConnect_takes s.tcp ip port e.localPort
    rcases hconnect : netTcpConnect s.tcp ip port e.localPort with ⟨t, _ | i⟩
    · rw [hconnect] at hnone
      have htcp : (s.withTcp t).Sound log := by
        rcases hnone rfl with hsame | ⟨hport, i, hi, htakes⟩
        · exact h.withTcp_conns (congrArg Tcp.conns hsame)
        · exact h.withTcp_takes htakes (hfree hport i hi)
      exact htcp.setEntry_same (fun _ => hused) hetype heid helistening fun _ => hepeer
    · rw [hconnect] at hsome
      obtain ⟨hport, hi, htakes, haccepted, hlistening⟩ := hsome i rfl
      have hnot := hfree hport i hi
      have hstream : e.type = nsSockStream :=
        hetype.trans ((h.types task slot hused).resolve_right htype)
      have hset : ((s.withTcp t).setEntry task slot
          { e with peerIp := ip, peerPort := port, netConnId := some i, listening := false }).Sound
            log := by
        refine (h.withTcp_takes htakes hnot).setEntry (fun _ => Or.inl hstream) (fun _ _ => hstream)
          ?_ ?_
        · rintro i _ ⟨rfl⟩ _
          exact ⟨haccepted, hlistening, fun hl => htakes.peer hl⟩
        · rintro i _ ⟨rfl⟩ task' slot' hheld
          exact absurd hheld (hnot task' slot')
      dsimp only
      split
      · exact hset
      · exact hset.connectRound _

lemma Sound.withTcp_accepted (hnot : ∀ task' slot', ¬ s.Holds task' slot' i) :
    (s.withTcp (s.tcp.setConn i { s.tcp.conns i with accepted := true })).Sound log := by
  refine ⟨h.types, h.stream, fun task' slot' j hheld hused => ?_, h.unique,
    fun j hused hlistening bytes hbytes => ?_⟩
  · have hj : j ≠ i := fun hj => hnot task' slot' (hj ▸ hheld)
    rw [withTcp_tcp, Tcp.setConn_of_ne _ hj] at hused ⊢
    exact h.own task' slot' j hheld hused
  · rw [withTcp_tcp] at hused hlistening hbytes ⊢
    by_cases hj : j = i
    · subst hj
      rw [Tcp.setConn_self] at hused hlistening hbytes ⊢
      exact h.heard j hused hlistening bytes hbytes
    · rw [Tcp.setConn_of_ne _ hj] at hused hlistening hbytes ⊢
      exact h.heard j hused hlistening bytes hbytes

lemma Sound.sysAccept (fd : Int) : (s.sysAccept task fd).1.Sound log := by
  unfold Sockets.sysAccept
  cases hfd : s.entryForFd task fd with
  | none => exact h
  | some slot =>
    dsimp only
    split
    · exact h
    split
    · exact h
    obtain ⟨hsome, hnone⟩ := netTcpAccept_conns s.tcp (s.taskSockets task slot).localPort
    rcases haccept : netTcpAccept s.tcp (s.taskSockets task slot).localPort with ⟨t, _ | ⟨i, ip, port⟩⟩
    · rw [haccept] at hnone
      exact h.withTcp_conns (congrArg Tcp.conns (hnone rfl))
    rw [haccept] at hsome
    obtain ⟨rfl, hused, hlistening, haccepted, hpeer⟩ := hsome i ip port rfl
    have hnot : ∀ task' slot', ¬ s.Holds task' slot' i := fun task' slot' hheld => by
      rw [(h.own task' slot' i hheld hused).1] at haccepted
      cases haccepted
    have hacc := h.withTcp_accepted hnot
    have hconn : (s.withTcp (s.tcp.setConn i { s.tcp.conns i with accepted := true })).tcp.conns i =
        { s.tcp.conns i with accepted := true } := Tcp.setConn_self ..
    have hnot' : ∀ task' slot', ¬ (s.withTcp (s.tcp.setConn i
        { s.tcp.conns i with accepted := true })).Holds task' slot' i := hnot
    dsimp only
    generalize s.withTcp (s.tcp.setConn i { s.tcp.conns i with accepted := true }) = s₁
      at hacc hconn hnot' ⊢
    have halloc : (s₁.allocFd task nsSockStream 0).1.Sound log := hacc.allocFd (Or.inl rfl) 0
    rcases hr : s₁.allocFd task nsSockStream 0 with ⟨s₂, _ | child⟩ <;> rw [hr] at halloc
    · exact halloc.netTcpClose i
    · obtain ⟨hs₂, -⟩ := allocFd_spec (s := s₁) (by rw [hr])
      rw [hr] at hs₂
      dsimp only at hs₂
      have htcp : s₂.tcp.conns i = { s.tcp.conns i with accepted := true } := by rw [hs₂]; exact hconn
      have hself : (s₂.taskSockets task child).type = nsSockStream := by rw [hs₂, setEntry_self]
      refine halloc.setEntry (fun _ => Or.inl hself) (fun _ _ => hself) ?_ ?_
      · rintro i _ ⟨rfl⟩ _
        rw [htcp]
        exact ⟨rfl, hlistening, fun _ => hpeer⟩
      · rintro i _ ⟨rfl⟩ task' slot' hheld
        by_cases hsame : task' = task ∧ slot' = child
        · exact hsame
        · rw [Holds, hs₂, setEntry_of_ne _ hsame] at hheld
          exact absurd hheld (hnot' task' slot')

/-! ### Using a socket -/

/-- What a call on an open socket does, bit by bit: work below TCP, a call of TCP for one connection,
or a new entry that keeps the type, the connection and, of a stream socket, the peer. -/
inductive Uses : Sockets → Sockets → Prop
  | refl (s : Sockets) : Uses s s
  | net (s : Sockets) (net : Net) : Uses s (s.withTcp { s.tcp with net := net })
  | send (s : Sockets) (i : Fin 32) (data : List UInt8) :
    Uses s (s.withTcp (netTcpSend s.tcp i data).1)
  | recv (s : Sockets) (i : Fin 32) (maxLen : Nat) :
    Uses s (s.withTcp (netTcpRecv s.tcp i maxLen).1)
  | close (s : Sockets) (i : Fin 32) : Uses s (s.withTcp (netTcpClose s.tcp i))
  | entry {s : Sockets} {task : Fin 8} {slot : Fin 64} {e : NsSocketEntry}
    (hused : (s.taskSockets task slot).used = true) (htype : e.type = (s.taskSockets task slot).type)
    (hid : e.netConnId = (s.taskSockets task slot).netConnId)
    (hlistening : e.listening = (s.taskSockets task slot).listening)
    (hpeer : (s.taskSockets task slot).type = nsSockStream →
      e.peer = (s.taskSockets task slot).peer) : Uses s (s.setEntry task slot e)
  | trans {s t u : Sockets} : Uses s t → Uses t u → Uses s u

lemma Sound.uses {s' : Sockets} (huse : Uses s s') : s'.Sound log := by
  induction huse with
  | refl => exact h
  | net => exact h.withTcp_conns rfl
  | send s i data =>
    have hact : s.tcp.Acts (netTcpSend s.tcp i data).1 i ∅ := netTcpSend_acts ..
    exact h.withTcp_acts hact fun _ hbytes => hbytes.elim
  | recv s i maxLen =>
    have hact : s.tcp.Acts (netTcpRecv s.tcp i maxLen).1 i ∅ := (netTcpRecv_acts ..).1
    exact h.withTcp_acts hact fun _ hbytes => hbytes.elim
  | close s i => exact h.netTcpClose i
  | entry hused htype hid hlistening hpeer =>
    refine h.setEntry_same (fun _ => hused) htype hid hlistening fun hne => hpeer ?_
    obtain ⟨i, hi⟩ := Option.ne_none_iff_exists'.1 hne
    exact h.stream _ _ i ⟨hused, hid ▸ hi⟩
  | trans _ _ ih ih' => exact ih' (ih h)

end

lemma uses_streamSend (s : Sockets) (e : NsSocketEntry) (i : Fin 32) (data : List UInt8) :
    Uses s (s.streamSend e i data).1 := by
  unfold Sockets.streamSend
  split
  · exact .refl _
  · exact .send _ _ _

section

variable (s : Sockets) (task : Fin 8)

lemma uses_sysSendto (fd : Int) (data : List UInt8) : Uses s (s.sysSendto task fd data).1 := by
  unfold Sockets.sysSendto
  cases s.entryForFd task fd with
  | none => exact .refl _
  | some slot =>
    dsimp only
    split
    · exact .refl _
    split
    · split
      · exact .net _ _
      · exact .refl _
    · split
      · exact .refl _
      · exact uses_streamSend s _ _ data

/-- `SYS_WRITE` differs from `SYS_SENDTO` in its error codes only. -/
lemma sysWrite_eq_sysSendto (fd : Int) (data : List UInt8) :
    (s.sysWrite task fd data).1 = (s.sysSendto task fd data).1 ∧
      (s.sysWrite task fd data).2.data = (s.sysSendto task fd data).2.data := by
  unfold Sockets.sysWrite Sockets.sysSendto
  cases s.entryForFd task fd with
  | none => exact ⟨rfl, rfl⟩
  | some slot =>
    dsimp only
    split
    · exact ⟨rfl, rfl⟩
    split
    · split <;> exact ⟨rfl, rfl⟩
    · split <;> exact ⟨rfl, rfl⟩

lemma uses_sysRecvfrom (fd : Int) (len : Nat) : Uses s (s.sysRecvfrom task fd len).1 := by
  unfold Sockets.sysRecvfrom
  cases hfd : s.entryForFd task fd with
  | none => exact .refl _
  | some slot =>
    dsimp only
    split
    · exact .refl _
    split
    · rename_i hdgram
      split
      · exact .refl _
      split
      · exact .refl _
      rcases netUdpRecv s.tcp.net (s.taskSockets task slot).localPort (len % 65536) with ⟨net, _ | pkt⟩
      · exact .net _ _
      · refine .trans (.net s net) ?_
        dsimp only
        split
        · refine .entry (entryForFd_used hfd) rfl rfl rfl fun hstream => ?_
          cases hdgram.symm.trans hstream
        · exact .refl _
    · split
      · exact .refl _
      split
      · exact .refl _
      · exact .recv _ _ _

lemma uses_sysRead (fd : Int) (size : Nat) : Uses s (s.sysRead task fd size).1 := by
  unfold Sockets.sysRead
  cases s.entryForFd task fd with
  | none => exact .refl _
  | some slot =>
    dsimp only
    split
    · exact .refl _
    split
    · exact .refl _
    split
    · split
      · exact .refl _
      · exact .net _ _
    · split
      · exact .refl _
      · exact .recv _ _ _

lemma uses_sysSetsockopt (fd opt : Int) (val : UInt32) :
    Uses s (s.sysSetsockopt task fd opt val).1 := by
  unfold Sockets.sysSetsockopt
  cases hfd : s.entryForFd task fd with
  | none => exact .refl _
  | some slot =>
    have hused := entryForFd_used hfd
    split_ifs
    · exact .entry hused rfl rfl rfl fun _ => rfl
    · exact .entry hused rfl rfl rfl fun _ => rfl
    · exact .entry hused rfl rfl rfl fun _ => rfl
    · exact .entry hused rfl rfl rfl fun _ => rfl
    · exact .refl _

lemma uses_sysFcntl (fd cmd : Int) (arg : UInt32) : Uses s (s.sysFcntl task fd cmd arg).1 := by
  unfold Sockets.sysFcntl
  cases hfd : s.entryForFd task fd with
  | none => exact .refl _
  | some slot =>
    split_ifs
    · exact .refl _
    · exact .entry (entryForFd_used hfd) rfl rfl rfl fun _ => rfl
    · exact .refl _

lemma uses_sysShutdown (fd how : Int) : Uses s (s.sysShutdown task fd how).1 := by
  unfold Sockets.sysShutdown
  cases hfd : s.entryForFd task fd with
  | none => exact .refl _
  | some slot =>
    dsimp only
    split
    · exact .refl _
    generalize he : ({ s.taskSockets task slot with
      shutRd := _, shutWr := _ } : NsSocketEntry) = e
    have hset : Uses s (s.setEntry task slot e) := by
      rw [← he]
      exact .entry (entryForFd_used hfd) rfl rfl rfl fun _ => rfl
    split
    · split
      · exact hset
      · exact hset.trans (.close _ _)
    · exact hset

end

/-- The calls that are made on an open socket. -/
def SocketCall.OnSocket : SocketCall → Prop
  | .sendto _ _ | .write _ _ | .recvfrom _ _ | .read _ _ | .setsockopt _ _ _ | .fcntl _ _ _
  | .shutdown _ _ => True
  | _ => False

lemma uses_call {c : SocketCall} (hc : SocketCall.OnSocket c) (s : Sockets) (task : Fin 8) :
    Uses s (s.call task c).1 := by
  cases c with
  | sendto fd data => exact uses_sysSendto s task fd data
  | write fd data =>
    rw [call, answered, (sysWrite_eq_sysSendto s task fd data).1]
    exact uses_sysSendto s task fd data
  | recvfrom fd len => exact uses_sysRecvfrom s task fd len
  | read fd size => exact uses_sysRead s task fd size
  | setsockopt fd opt val => exact uses_sysSetsockopt s task fd opt val
  | fcntl fd cmd arg => exact uses_sysFcntl s task fd cmd arg
  | shutdown fd how => exact uses_sysShutdown s task fd how
  | _ => exact hc.elim

lemma Sound.sysClose (h : s.Sound log) (fd : Int) : (s.sysClose task fd).1.Sound log := by
  unfold Sockets.sysClose
  cases s.entryForFd task fd with
  | none => exact h
  | some slot => exact h.closeEntry

/-! ### Runs -/

lemma Sound.netTcpPoll (h : s.Sound log) : (s.withTcp (netTcpPoll s.tcp)).Sound log := by
  suffices hall : ∀ (l : List (Fin 32)) (t : Tcp), (s.withTcp t).Sound log →
      (s.withTcp (l.foldl (fun t i =>
        let c := t.conns i
        if !c.used ∨ c.listening ∨ !c.waitingAck then t
        else if (t.net.tick - c.lastTxTick).toNat ≥ tcpRetxTicks <<< min c.lastTxRetries 4 then
          (tcpRetransmitLast t i).1
        else t) t)).Sound log from hall _ _ h
  intro l
  induction l with
  | nil => exact fun t ht => ht
  | cons i l ih =>
    intro t ht
    refine ih _ ?_
    dsimp only
    split
    · exact ht
    split
    · have hact : (s.withTcp t).tcp.Acts (tcpRetransmitLast t i).1 i ∅ := tcpRetransmitLast_acts t i
      exact ht.withTcp_acts hact fun _ hbytes => hbytes.elim
    · exact ht

lemma Sound.handleFrame (h : s.Sound log) {bytes : List UInt8} (hok : s.NoReuse (.frame bytes)) :
    (s.withTcp (handleFrame s.tcp bytes)).Sound (log ++ s.hears (.frame bytes)) := by
  unfold Sockets.handleFrame
  have hconns : ({ s.tcp with net := netHandleEthFrame s.tcp.net bytes } : Tcp).conns =
      s.tcp.conns := rfl
  generalize ({ s.tcp with net := netHandleEthFrame s.tcp.net bytes } : Tcp) = t at hconns ⊢
  have hnet : (s.withTcp t).Sound (log ++ s.hears (.frame bytes)) :=
    Sound.withTcp_conns (h.mono fun x hx => List.mem_append_left _ hx) hconns
  cases hseg : segmentOf s.tcp.net bytes with
  | none => exact hnet
  | some d =>
    have hheard : segmentHeard d ∈ log ++ s.hears (.frame bytes) := by
      simp [hears, hseg]
    dsimp only
    rcases netHandleTcpSegment_cases t d with hsame | ⟨hrequest, i, hfree, htakes⟩ | ⟨i, hpeer, hact⟩
    · rwa [hsame]
    · have hrequest' : TcpRequest s.tcp d := by
        unfold TcpRequest tcpFindConn tcpFindListener at hrequest ⊢
        rwa [hconns] at hrequest
      have hfree' : tcpFreeConn s.tcp = some i := by
        unfold tcpFreeConn at hfree ⊢
        rwa [hconns] at hfree
      exact hnet.withTcp_takes htakes fun task' slot' => hok ⟨d, hseg, hrequest'⟩ i hfree' task' slot'
    · refine hnet.withTcp_acts hact fun payload hpayload => ?_
      rw [Set.mem_singleton_iff.1 hpayload, withTcp_tcp, hpeer]
      exact hheard

lemma not_waiting {c : SocketCall} (hexit : c ≠ .exit) (h : ¬ s.isWaiting task c = true) :
    s.connecting task = none := by
  cases c with
  | exit => exact absurd rfl hexit
  | _ => simpa [isWaiting] using h

lemma Sound.step (h : s.Sound log) {o : SocketOp} (hok : s.NoReuse o) :
    (s.step o).1.Sound (log ++ s.hears o) := by
  cases o with
  | call task c =>
    simp only [hears, List.append_nil]
    rw [Sockets.step]
    split
    · exact h
    rename_i hnot
    have hwait : c ≠ .exit → s.connecting task = none := fun hexit => not_waiting hexit hnot
    cases c with
    | socket domain type protocol => exact h.sysSocket domain type protocol
    | bind fd family port => exact h.sysBind fd family port
    | listen fd => exact h.sysListen (hwait (by simp)) hok
    | accept fd => exact h.sysAccept fd
    | connect fd family ip port => exact h.sysConnect (hwait (by simp)) hok
    | close fd => exact h.sysClose fd
    | exit =>
      exact (h.closeAllForTask task).setConnecting none
    | _ => exact h.uses (uses_call (by trivial) s task)
  | frame bytes => exact h.handleFrame hok
  | poll =>
    simp only [hears, List.append_nil]
    exact h.netTcpPoll
  | clock tick =>
    simp only [hears, List.append_nil]
    exact h.withTcp_conns rfl
  | schedulerTick =>
    simp only [hears, List.append_nil]
    exact ⟨h.types, h.stream, h.own, h.unique, h.heard⟩
  | wake task =>
    simp only [hears, List.append_nil]
    exact h.wake

/-- What arrives along a run. -/
def heardAlong (s : Sockets) : List SocketOp → Heard
  | [] => []
  | o :: os => s.hears o ++ (s.step o).1.heardAlong os

lemma Sound.run (h : s.Sound log) {os : List SocketOp}
    (hr : Machine.Runs NoReuse Sockets.step s os) :
    (Machine.run Sockets.step s os).Sound (log ++ s.heardAlong os) := by
  induction os generalizing s log with
  | nil =>
    rw [heardAlong, List.append_nil]
    exact h
  | cons o os ih =>
    rw [heardAlong, ← List.append_assoc]
    exact ih (h.step hr.1) hr.2

/-- Nothing is used yet. -/
structure Fresh (s : Sockets) : Prop where
  sockets : ∀ task slot, (s.taskSockets task slot).used = false
  conns : ∀ i, (s.tcp.conns i).used = false

lemma Fresh.sound (h : s.Fresh) : s.Sound [] where
  types task slot hused := by simp [h.sockets task slot] at hused
  stream task slot i hheld := by simp [Holds, h.sockets task slot] at hheld
  own task slot i hheld := by simp [Holds, h.sockets task slot] at hheld
  unique task slot task' slot' i hheld := by simp [Holds, h.sockets task slot] at hheld
  heard i hused := by simp [h.conns i] at hused

/-! ### One use of a socket -/

/-- A step sends only to the peers of these sockets, touches only connections that are theirs and no
other socket's, and gives them only what their peers have sent. -/
structure Own (s s' : Sockets) (task : Fin 8) (slots : Set (Fin 64)) (data : List UInt8)
    (log : Heard) :
    Prop where
  sent : s.tcp.net.SendsTo s'.tcp.net {peer | ∃ slot ∈ slots, peer = (s.taskSockets task slot).peer}
  touched : ∀ i, (s.tcp.conns i).used = true → (s.tcp.conns i).listening = false →
    s'.tcp.conns i ≠ s.tcp.conns i → ∃ slot ∈ slots, s.Holds task slot i ∧
      (s.tcp.conns i).peer = (s.taskSockets task slot).peer ∧
      ∀ task' slot', s.Holds task' slot' i → task' = task ∧ slot' = slot
  received : data ≠ [] → ∃ slot ∈ slots, ∃ bytes,
    ((s.taskSockets task slot).peer, bytes) ∈ log ∧ data <+: bytes

variable {slots : Set (Fin 64)}

lemma Own.of_same {s' : Sockets} (hnet : s'.tcp.net.tx = s.tcp.net.tx)
    (hconns : ∀ i, (s.tcp.conns i).listening = false → s'.tcp.conns i = s.tcp.conns i) :
    s.Own s' task slots [] log where
  sent := Net.SendsTo.of_tx hnet
  touched i _ hlistening hne := absurd (hconns i hlistening) hne
  received h := absurd rfl h

lemma Own.setConnecting {s' : Sockets} {data : List UInt8} (h : s.Own s' task slots data log)
    (w : Option Connecting) : s.Own (s'.setConnecting task w) task slots data log :=
  ⟨h.sent, h.touched, h.received⟩

lemma Own.refl (s : Sockets) : s.Own s task slots [] log := Own.of_same rfl fun _ _ => rfl

section

variable (h : s.Sound log) (hheld : s.Holds task slot i)
include h hheld

lemma Sound.own_acts {extra : Set (List UInt8)} (hact : s.tcp.Acts t i extra)
    (hidle : (s.tcp.conns i).used = false ∨ (s.tcp.conns i).listening = true → t.net = s.tcp.net) :
    s.Own (s.withTcp t) task {slot} [] log := by
  refine ⟨?_, fun j hused hlistening hne => ⟨slot, rfl, ?_⟩, fun hne => absurd rfl hne⟩
  · by_cases hlive : (s.tcp.conns i).used = true ∧ (s.tcp.conns i).listening = false
    · refine hact.sent.mono fun peer hpeer => ⟨slot, rfl, ?_⟩
      rw [Set.mem_singleton_iff.1 hpeer]
      exact (h.own task slot i hheld hlive.1).2.2 hlive.2
    · have hnet : t.net = s.tcp.net := hidle (by
        rcases not_and_or.1 hlive with hu | hl
        · exact Or.inl (by simpa using hu)
        · exact Or.inr (by simpa using hl))
      exact Net.SendsTo.of_tx (congrArg Net.tx hnet)
  · have hj : j = i := by
      by_contra hji
      exact hne (hact.other j hji)
    subst hj
    exact ⟨hheld, (h.own task slot j hheld hused).2.2 hlistening,
      fun task' slot' hheld' => h.unique task slot task' slot' j hheld hheld'⟩

lemma Sound.own_netTcpClose :
    s.Own (s.withTcp (NeuroSpark.netTcpClose s.tcp i)) task {slot} [] log := by
  have hact : s.tcp.Acts (NeuroSpark.netTcpClose s.tcp i) i ∅ := netTcpClose_acts s.tcp i
  exact h.own_acts hheld hact netTcpClose_idle

lemma Sound.own_streamSend (e : NsSocketEntry) (data : List UInt8) :
    s.Own (s.streamSend e i data).1 task {slot} (s.streamSend e i data).2.data log := by
  unfold Sockets.streamSend
  split
  · exact Own.refl s
  · have hact : s.tcp.Acts (netTcpSend s.tcp i (word16Prefix data)).1 i ∅ := netTcpSend_acts ..
    exact h.own_acts hheld hact fun hidle => by rw [netTcpSend_idle hidle]

lemma Sound.own_netTcpRecv (maxLen : Nat) :
    s.Own ((s.withTcp (NeuroSpark.netTcpRecv s.tcp i maxLen).1).received
      (NeuroSpark.netTcpRecv s.tcp i maxLen).2).1 task {slot}
      (NeuroSpark.netTcpRecv s.tcp i maxLen).2 log := by
  obtain ⟨hact, hbytes⟩ : s.tcp.Acts (NeuroSpark.netTcpRecv s.tcp i maxLen).1 i ∅ ∧ _ :=
    netTcpRecv_acts s.tcp i maxLen
  have hnet : (NeuroSpark.netTcpRecv s.tcp i maxLen).1.net = s.tcp.net := by
    unfold NeuroSpark.netTcpRecv
    dsimp only
    split
    · rfl
    split
    · rfl
    split <;> rfl
  obtain ⟨hsent, htouched, -⟩ := h.own_acts hheld hact fun _ => hnet
  refine ⟨hsent, htouched, fun hne => ?_⟩
  obtain ⟨hused, hlistening, bytes, hmem, hpre⟩ := hbytes hne
  refine ⟨slot, rfl, bytes, ?_, hpre⟩
  rw [← (h.own task slot i hheld hused).2.2 hlistening]
  exact h.heard i hused hlistening bytes hmem

end

lemma Own.mono {s' : Sockets} {slots' : Set (Fin 64)} {data : List UInt8}
    (h : s.Own s' task slots data log) (hsub : slots ⊆ slots') : s.Own s' task slots' data log where
  sent := h.sent.mono fun _ ⟨slot, hslot, hpeer⟩ => ⟨slot, hsub hslot, hpeer⟩
  touched i hused hlistening hne := by
    obtain ⟨slot, hslot, hheld⟩ := h.touched i hused hlistening hne
    exact ⟨slot, hsub hslot, hheld⟩
  received hne := by
    obtain ⟨slot, hslot, hbytes⟩ := h.received hne
    exact ⟨slot, hsub hslot, hbytes⟩

lemma Sound.own_closeEntry (h : s.Sound log) :
    s.Own (s.closeEntry task slot) task
      {slot' | slot' = slot ∧ (s.taskSockets task slot).used = true ∧
        (s.taskSockets task slot).type = nsSockStream} [] log := by
  unfold Sockets.closeEntry
  dsimp only
  split
  · exact Own.refl s
  rename_i hused
  by_cases htype : (s.taskSockets task slot).type = nsSockStream
  · have hdgram : ¬ ((s.taskSockets task slot).type = nsSockDgram ∧
        (s.taskSockets task slot).bound = true) := by
      rintro ⟨hd, -⟩
      rw [htype] at hd
      cases hd
    rw [if_neg hdgram, if_pos htype]
    have hslots : ({slot} : Set (Fin 64)) ⊆ {slot' | slot' = slot ∧
        (s.taskSockets task slot).used = true ∧ (s.taskSockets task slot).type = nsSockStream} :=
      fun _ hslot' => ⟨hslot', by simpa using hused, htype⟩
    split
    · -- a listener is no connection
      rcases netTcpUnlisten_acts s.tcp (s.taskSockets task slot).localPort with
        hsame | ⟨i, hlistening, hnet, hact⟩
      · rw [hsame]
        exact Own.of_same rfl fun _ _ => rfl
      · refine Own.of_same (congrArg Net.tx hnet) fun j hj => hact.other j ?_
        rintro rfl
        rw [hlistening] at hj
        cases hj
    · cases hid : (s.taskSockets task slot).netConnId with
      | none => exact Own.of_same rfl fun _ _ => rfl
      | some i =>
        obtain ⟨hsent, htouched, hreceived⟩ := (h.own_netTcpClose
          ⟨by simpa using hused, hid⟩).mono hslots
        exact ⟨hsent, htouched, hreceived⟩
  · rw [if_neg htype]
    refine Own.of_same ?_ fun _ _ => ?_
    · split
      · unfold netUdpUnbind
        split <;> rfl
      · rfl
    · split <;> rfl

lemma closeEntry_of_ne {slot' : Fin 64} (hne : slot' ≠ slot) :
    (s.closeEntry task slot).taskSockets task slot' = s.taskSockets task slot' := by
  unfold Sockets.closeEntry
  dsimp only
  split
  · rfl
  · exact setEntry_of_ne _ (fun hsame => hne hsame.2) _

lemma Own.trans {s₁ s₂ : Sockets} {slots₁ slots₂ : Set (Fin 64)} (hs : s.Sound log)
    (h₁ : s.Own s₁ task slots₁ [] log) (h₂ : s₁.Own s₂ task slots₂ [] log)
    (hsame : ∀ slot ∈ slots₂, s₁.taskSockets task slot = s.taskSockets task slot) :
    s.Own s₂ task (slots₁ ∪ slots₂) [] log where
  sent := by
    refine Net.SendsTo.trans (h₁.sent.mono ?_) (h₂.sent.mono ?_)
    · rintro peer ⟨slot, hslot, hpeer⟩
      exact ⟨slot, Or.inl hslot, hpeer⟩
    · rintro peer ⟨slot, hslot, hpeer⟩
      exact ⟨slot, Or.inr hslot, by rw [hpeer, hsame slot hslot]⟩
  touched i hused hlistening hne := by
    by_cases hfirst : s₁.tcp.conns i = s.tcp.conns i
    · rw [← hfirst] at hused hlistening hne ⊢
      obtain ⟨slot, hslot, hheld, hpeer, -⟩ := h₂.touched i hused hlistening hne
      have hheld' : s.Holds task slot i := by
        rw [Holds, hsame slot hslot] at hheld
        exact hheld
      exact ⟨slot, Or.inr hslot, hheld', by rw [hpeer, hsame slot hslot],
        fun task' slot' => hs.unique task slot task' slot' i hheld'⟩
    · obtain ⟨slot, hslot, hrest⟩ := h₁.touched i hused hlistening hfirst
      exact ⟨slot, Or.inl hslot, hrest⟩
  received h := absurd rfl h

lemma Sound.own_closeAllForTask (h : s.Sound log) (task : Fin 8) :
    s.Own (s.closeAllForTask task) task {slot | (s.taskSockets task slot).used = true ∧
      (s.taskSockets task slot).type = nsSockStream} [] log := by
  suffices hall : ∀ (l : List (Fin 64)) (s : Sockets), s.Sound log → l.Nodup →
      s.Own (l.foldl (fun s slot => s.closeEntry task slot) s) task {slot | slot ∈ l ∧
        (s.taskSockets task slot).used = true ∧ (s.taskSockets task slot).type = nsSockStream} []
        log from
    (hall (List.finRange 64) s h (List.nodup_finRange 64)).mono fun _ hslot => hslot.2
  intro l
  induction l with
  | nil => exact fun s _ _ => Own.refl s
  | cons slot l ih =>
    intro s h hnodup
    rw [List.nodup_cons] at hnodup
    have hclosed : (s.closeEntry task slot).Sound log := h.closeEntry
    have hrest := ih _ hclosed hnodup.2
    have hother : ∀ slot' ∈ l, (s.closeEntry task slot).taskSockets task slot' =
        s.taskSockets task slot' :=
      fun slot' hmem => closeEntry_of_ne fun heq => hnodup.1 (heq ▸ hmem)
    refine (h.own_closeEntry.trans h hrest fun slot' hslot' => hother slot' hslot'.1).mono ?_
    rintro slot' (⟨rfl, hused⟩ | ⟨hmem, hused⟩)
    · exact ⟨List.mem_cons_self, hused⟩
    · rw [hother slot' hmem] at hused
      exact ⟨List.mem_cons_of_mem _ hmem, hused⟩

/-- The sockets that a call uses. -/
def usedSlots (s : Sockets) (task : Fin 8) : SocketCall → Set (Fin 64)
  | .sendto fd _ | .write fd _ | .recvfrom fd _ | .read fd _ | .shutdown fd _ | .close fd =>
    {slot | s.entryForFd task fd = some slot}
  | .exit => {slot | (s.taskSockets task slot).used = true ∧
      (s.taskSockets task slot).type = nsSockStream}
  | _ => ∅

end

end Sockets

/-- The calls that use sockets: those that send, receive or close. -/
def SocketCall.IsUse : SocketCall → Prop
  | .sendto .. | .write .. | .recvfrom .. | .read .. | .shutdown .. | .close .. | .exit => True
  | _ => False

namespace Sockets

section

variable {s : Sockets} {log : Heard} {task : Fin 8} {fd : Int}

lemma not_dgram {type : Int} (h : type = nsSockStream) : ¬ type = nsSockDgram := by
  rintro hdgram
  rw [h] at hdgram
  cases hdgram

section

variable (h : s.Sound log)
  (hstream : ∀ slot, s.entryForFd task fd = some slot →
    (s.taskSockets task slot).type = nsSockStream)
include h hstream

lemma Sound.own_sysSendto {data : List UInt8} :
    s.Own (s.sysSendto task fd data).1 task {slot | s.entryForFd task fd = some slot}
      (s.sysSendto task fd data).2.data log := by
  unfold Sockets.sysSendto
  cases hfd : s.entryForFd task fd with
  | none => exact Own.refl s
  | some slot =>
    dsimp only
    rw [if_neg (not_dgram (hstream slot hfd))]
    split
    · exact Own.refl s
    cases hid : (s.taskSockets task slot).netConnId with
    | none => exact Own.refl s
    | some i =>
      exact (h.own_streamSend ⟨entryForFd_used hfd, hid⟩ _ data).mono fun _ hs => congrArg some hs.symm

lemma Sound.own_sysRecvfrom {len : Nat} :
    s.Own (s.sysRecvfrom task fd len).1 task {slot | s.entryForFd task fd = some slot}
      (s.sysRecvfrom task fd len).2.data log := by
  unfold Sockets.sysRecvfrom
  cases hfd : s.entryForFd task fd with
  | none => exact Own.refl s
  | some slot =>
    dsimp only
    rw [if_neg (not_dgram (hstream slot hfd))]
    split
    · exact Own.refl s
    cases hid : (s.taskSockets task slot).netConnId with
    | none => exact Own.refl s
    | some i =>
      dsimp only
      split
      · exact Own.refl s
      · exact (h.own_netTcpRecv ⟨entryForFd_used hfd, hid⟩ _).mono fun _ hs => congrArg some hs.symm

lemma Sound.own_sysRead {size : Nat} :
    s.Own (s.sysRead task fd size).1 task {slot | s.entryForFd task fd = some slot}
      (s.sysRead task fd size).2.data log := by
  unfold Sockets.sysRead
  cases hfd : s.entryForFd task fd with
  | none => exact Own.refl s
  | some slot =>
    dsimp only
    rw [if_neg (not_dgram (hstream slot hfd))]
    split
    · exact Own.refl s
    split
    · exact Own.refl s
    cases hid : (s.taskSockets task slot).netConnId with
    | none => exact Own.refl s
    | some i =>
      exact (h.own_netTcpRecv ⟨entryForFd_used hfd, hid⟩ _).mono fun _ hs => congrArg some hs.symm

end

lemma Sound.own_sysShutdown (h : s.Sound log) {fd how : Int} :
    s.Own (s.sysShutdown task fd how).1 task {slot | s.entryForFd task fd = some slot}
      (s.sysShutdown task fd how).2.data log := by
  unfold Sockets.sysShutdown
  cases hfd : s.entryForFd task fd with
  | none => exact Own.refl s
  | some slot =>
    dsimp only
    split
    · exact Own.refl s
    split
    · cases hid : (s.taskSockets task slot).netConnId with
      | none => exact Own.of_same rfl fun _ _ => rfl
      | some i =>
        have hheld : s.Holds task slot i := ⟨entryForFd_used hfd, hid⟩
        obtain ⟨hsent, htouched, hreceived⟩ :=
          (h.own_netTcpClose hheld).mono fun _ hs => congrArg some hs.symm
        exact ⟨hsent, htouched, hreceived⟩
    · exact Own.of_same rfl fun _ _ => rfl

lemma Sound.own_sysClose (h : s.Sound log) :
    s.Own (s.sysClose task fd).1 task {slot | s.entryForFd task fd = some slot}
      (s.sysClose task fd).2.data log := by
  unfold Sockets.sysClose
  cases hfd : s.entryForFd task fd with
  | none => exact Own.refl s
  | some slot => exact h.own_closeEntry.mono fun _ hs => congrArg some hs.1.symm

lemma Sound.own_call (h : s.Sound log) {c : SocketCall} (huse : c.IsUse)
    (hstream : ∀ slot ∈ s.usedSlots task c, (s.taskSockets task slot).type = nsSockStream) :
    s.Own (s.step (.call task c)).1 task (s.usedSlots task c)
      ((s.step (.call task c)).2.elim [] SockAnswer.data) log := by
  rw [Sockets.step]
  split
  · exact Own.refl s
  cases c with
  | sendto fd data => exact h.own_sysSendto hstream
  | write fd data =>
    obtain ⟨hstate, hdata⟩ := sysWrite_eq_sysSendto s task fd data
    simp only [call, answered, Option.elim_some, hstate, hdata]
    exact h.own_sysSendto hstream
  | recvfrom fd len => exact h.own_sysRecvfrom hstream
  | read fd size => exact h.own_sysRead hstream
  | shutdown fd how => exact h.own_sysShutdown
  | close fd => exact h.own_sysClose
  | exit =>
    simp only [call, usedSlots]
    exact (h.own_closeAllForTask task).setConnecting none
  | _ => exact huse.elim

end

end Sockets

/-- In every run in which no entry of the table is taken that a socket still holds: whenever a task
uses stream sockets, it sends to their peers only, closes or reads from no connection but theirs,
and is given nothing but what their peers have sent. -/
theorem socket_uses_own_connection {s : Sockets} (hfresh : s.Fresh) {pre : List SocketOp}
    {task : Fin 8} {c : SocketCall}
    (hrun : Machine.Runs Sockets.NoReuse Sockets.step s (pre ++ [.call task c])) (huse : c.IsUse)
    (hstream : ∀ slot ∈ (Machine.run Sockets.step s pre).usedSlots task c,
      ((Machine.run Sockets.step s pre).taskSockets task slot).type = nsSockStream) :
    (Machine.run Sockets.step s pre).Own (Machine.run Sockets.step s (pre ++ [.call task c])) task
      ((Machine.run Sockets.step s pre).usedSlots task c)
      (((Machine.run Sockets.step s pre).step (.call task c)).2.elim [] SockAnswer.data)
      (s.heardAlong pre) := by
  rw [Machine.runs_append] at hrun
  have hsound : (Machine.run Sockets.step s pre).Sound (s.heardAlong pre) := hfresh.sound.run hrun.1
  rw [Machine.run_append]
  exact hsound.own_call huse hstream

/-- The stack after booting, with no socket and no connection. -/
def Sockets.booted : Sockets where
  tcp :=
    { net := Net.booted 0x0A00020F
      conns := fun _ => TcpConn.unused
      issSeed := 0x10203040 }
  taskSockets _ _ := NsSocketEntry.closed
  schedulerTicks := 0
  connecting _ := none

/-- A frame from 10.0.2.16 with a segment for the port of the first socket of task 0. -/
def replyFrame (srcPort : UInt16) (seq ack : UInt32) (flags : UInt8) (payload : List UInt8) :
    List UInt8 :=
  ipv4Frame broadcastMac broadcastMac
    (ipv4Header (40 + payload.length) 1 0 64 ipProtoTcp 0x0A000210 0x0A00020F)
    (tcpSegment 0x0A000210 0x0A00020F srcPort 40000 seq ack flags payload)

/-- Task 0 connects to port 80 of 10.0.2.16 and waits until it answers; it then sends two bytes. -/
def greetedRun : List SocketOp :=
  [.call 0 (.socket 2 1 0), .call 0 (.connect 1024 2 0x0A000210 80),
    .frame (replyFrame 80 5000 0x10203041 (tcpFlagSyn ||| tcpFlagAck) []), .wake 0,
    .frame (replyFrame 80 5001 0x10203041 tcpFlagAck [104, 105])]

lemma Sockets.booted_fresh : Sockets.booted.Fresh := ⟨fun _ _ => rfl, fun _ => rfl⟩

/-- The two bytes are received from the peer to which the socket was connected. -/
theorem socket_uses_own_connection_greeted :
    (Machine.run Sockets.step Sockets.booted greetedRun).Own
      (Machine.run Sockets.step Sockets.booted (greetedRun ++ [.call 0 (.recvfrom 1024 16)])) 0
      {slot | (Machine.run Sockets.step Sockets.booted greetedRun).entryForFd 0 1024 = some slot}
      [104, 105] (Sockets.booted.heardAlong greetedRun) := by
  have hdata : ((Machine.run Sockets.step Sockets.booted greetedRun).step
      (.call 0 (.recvfrom 1024 16))).2.elim [] SockAnswer.data = [104, 105] := by decide +kernel
  have hrun : Machine.Runs Sockets.NoReuse Sockets.step Sockets.booted
      (greetedRun ++ [.call 0 (.recvfrom 1024 16)]) := by
    refine ⟨fun h => h.elim, fun _ => ?_, fun _ => ?_, fun h => h.elim, fun _ => ?_, fun h => h.elim,
      trivial⟩
    · decide +kernel
    · decide +kernel
    · decide +kernel
  have hstream : ∀ slot, (Machine.run Sockets.step Sockets.booted greetedRun).entryForFd 0 1024 =
      some slot → ((Machine.run Sockets.step Sockets.booted greetedRun).taskSockets 0 slot).type =
        nsSockStream := by decide +kernel
  exact hdata ▸ socket_uses_own_connection Sockets.booted_fresh hrun trivial hstream

/-- With sockets that do not block, task 0 connects and shuts its connection down, which frees the
entry, and task 1 gets the entry for a connection of its own. -/
def takenRun : List SocketOp :=
  [.call 0 (.socket 2 1 0), .call 0 (.fcntl 1024 2 nsONonblock),
    .call 0 (.connect 1024 2 0x0A000210 80), .call 0 (.shutdown 1024 1), .call 1 (.socket 2 1 0),
    .call 1 (.fcntl 1024 2 nsONonblock), .call 1 (.connect 1024 2 0x0A000211 8080)]

/-- The socket of task 0 closes the connection of task 1. -/
theorem socket_closes_other_connection :
    ((Machine.run Sockets.step Sockets.booted takenRun).taskSockets 0 0).peer = (0x0A000210, 80) ∧
      (Machine.run Sockets.step Sockets.booted takenRun).Holds 1 0 0 ∧
      ((Machine.run Sockets.step Sockets.booted takenRun).tcp.conns 0).used = true ∧
      ((Machine.run Sockets.step Sockets.booted takenRun).tcp.conns 0).peer = (0x0A000211, 8080) ∧
      ((Machine.run Sockets.step Sockets.booted
        (takenRun ++ [.call 0 (.close 1024)])).tcp.conns 0).used = false := by
  refine ⟨by decide +kernel, by decide +kernel, by decide +kernel, by decide +kernel,
    by decide +kernel⟩

end NeuroSpark
