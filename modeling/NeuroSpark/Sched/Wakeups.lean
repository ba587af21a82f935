import NeuroSpark.Sched.Resuming
import NeuroSpark.Lib.Table
import NeuroSpark.Lib.WaitingLists

/-!
# Wake-ups and interleavings

Here the sections of the tasks interleave in any way: whichever task is not blocked may run its next
section and is `os_current_task` while it does. `ipc_recv_wait`, `ipc_send_wait` and
`sched_event_wait` test in one section and go on the wait queue in another. A value sent or a signal
given between the two wakes nobody, and the task then waits for what is already there.

While somebody is in a queue, every unit of what the queue waits for has a task that is to look at
it: one that was woken, or one that is about to wake the next.
-/

namespace NeuroSpark

open Function (update update_self update_of_ne)

/-- The calls that interleave. -/
inductive IpcCall where
  | ipcSend (channel : Int) (value : Int)
  | ipcRecv (channel : Int) (outValue : Bool)
  | ipcSendWait (channel : Int) (value : Int)
  | ipcRecvWait (channel : Int) (outValue : Bool)
  | schedEventWait (e : Nat)
  | schedEventSignal (e : Nat)

def IpcCall.call : IpcCall → Call
  | .ipcSend channel value => .ipcSend channel value
  | .ipcRecv channel out => .ipcRecv channel out
  | .ipcSendWait channel value => .ipcSendWait channel value
  | .ipcRecvWait channel out => .ipcRecvWait channel out
  | .schedEventWait e => .schedEventWait e
  | .schedEventSignal e => .schedEventSignal e

/-- A task makes a call, or runs the next section of the one it is in. -/
inductive Turn where
  | call (t : TaskId) (c : IpcCall)
  | go (t : TaskId)

/-- The task is on its way to the switch. -/
def Pc.isSwitch : Pc → Bool
  | .switch _ => true
  | _ => false

/-- The point a task of the queue goes on from: it tries again, or it has what it waited for. -/
inductive Resume.For : WaitQueue → Resume → Prop
  | recv (c : IpcChannel) : For (.ipcRecv c) (.recv c .wait)
  | send (c : IpcChannel) (value : Int) : For (.ipcSend c) (.send c value .wait)
  | event (e : Nat) : For (.event e) .own

/-- The task is to look at what the queue waits for. -/
def Pc.Looks (pc : Pc) (q : WaitQueue) : Prop :=
  ∃ next, Resume.For q next ∧ (pc = next.pc ∨ pc = .switch next)

/-- The points of the six calls. -/
inductive Pc.OfIpc : Pc → Prop
  | own : OfIpc .own
  | send (c : IpcChannel) (value : Int) {r : Retry} (h : r = .once ∨ r = .wait) :
      OfIpc (.send c value r)
  | recv (c : IpcChannel) {r : Retry} (h : r = .once ∨ r = .wait) : OfIpc (.recv c r)
  | wakeRecv (c : IpcChannel) : OfIpc (.wake (.ipcRecv c))
  | wakeSend (c : IpcChannel) : OfIpc (.wake (.ipcSend c))
  | wait {q : WaitQueue} {next : Resume} (h : next.For q) : OfIpc (.wait q next)
  | switch {q : WaitQueue} {next : Resume} (h : next.For q) : OfIpc (.switch next)
  | eventTest (e : Nat) : OfIpc (.eventTest e none)
  | signalWake (e : Nat) : OfIpc (.signalWake e)
  | signalSet (e : Nat) : OfIpc (.signalSet e)

/-- How much there is of what the tasks of a queue wait for. An event is not counted: its signal is
taken from `signaled` or given to a waiter. -/
def Sched.available (s : Sched) : WaitQueue → Nat
  | .ipcRecv c => (s.ipcChannels c).count
  | .ipcSend c => 16 - (s.ipcChannels c).count
  | .event _ => 0
  | .other _ => 0

namespace Kernel

/-- The task is not blocked, or it has just blocked itself and is on its way to the switch. -/
def CanGo (k : Kernel) (t : TaskId) : Prop :=
  k.sched.InTable t ∧ ((k.sched.stateOf t).Runnable ∨ (k.pc t).isSwitch = true)

instance (k : Kernel) (t : TaskId) : Decidable (k.CanGo t) := inferInstanceAs (Decidable (_ ∧ _))

/-- The task has the processor. -/
def resume (k : Kernel) (t : TaskId) (h : k.sched.InTable t) : Kernel :=
  { k with sched := { k.sched with osCurrentTask := t, current_lt := h } }

/-- One turn; a task that cannot go makes none. -/
def turn (k : Kernel) : Turn → Kernel × Unit
  | .call t c =>
    if k.CanGo t ∧ k.pc t = .own then
      (k.setPc t (c.call.enter k.sched.schedulerTicks), ())
    else (k, ())
  | .go t => if h : k.CanGo t then ((k.resume t h.1).advance, ()) else (k, ())

/-- What a task found missing is still missing, and nobody is half-way through signalling it. -/
def StillMissing (k : Kernel) : WaitQueue → Prop
  | .ipcRecv c => (k.sched.ipcChannels c).count = 0
  | .ipcSend c => (k.sched.ipcChannels c).count = 16
  | .event e => k.sched.signaled e = false ∧ ∀ t, k.pc t ≠ .signalSet e
  | .other _ => True

instance (k : Kernel) (q : WaitQueue) : Decidable (k.StillMissing q) :=
  match q with
  | .ipcRecv c => inferInstanceAs (Decidable ((k.sched.ipcChannels c).count = 0))
  | .ipcSend c => inferInstanceAs (Decidable ((k.sched.ipcChannels c).count = 16))
  | .event e =>
    inferInstanceAs (Decidable (k.sched.signaled e = false ∧ ∀ t, k.pc t ≠ .signalSet e))
  | .other _ => inferInstanceAs (Decidable True)

/-- A task goes on a queue only while it has to wait, and one that blocked itself leaves the
processor to another. -/
def SectionIsSafe (k : Kernel) : Pc → Prop
  | .wait q _ => k.StillMissing q
  | .switch _ => ∃ u, k.sched.InTable u ∧ (k.sched.stateOf u).Runnable
  | _ => True

instance (k : Kernel) (pc : Pc) : Decidable (k.SectionIsSafe pc) :=
  match pc with
  | .wait q _ => inferInstanceAs (Decidable (k.StillMissing q))
  | .switch _ =>
    inferInstanceAs (Decidable (∃ u, k.sched.InTable u ∧ (k.sched.stateOf u).Runnable))
  | .own | .halted | .yield | .sleep _ | .sleepTimeout _ _ | .exit _ | .kill _ _
  | .waitTimeout _ _ _ | .remaining _ _ _ _ | .deadline _ _ | .wake _ | .wakeAll _
  | .eventTest _ _ | .signalWake _ | .broadcastWake _ | .signalSet _ | .send _ _ _ | .recv _ _ =>
    inferInstanceAs (Decidable True)

def TurnIsSafe (k : Kernel) : Turn → Prop
  | .call _ _ => True
  | .go t => k.SectionIsSafe (k.pc t)

instance (k : Kernel) (o : Turn) : Decidable (k.TurnIsSafe o) :=
  match o with
  | .call _ _ => inferInstanceAs (Decidable True)
  | .go t => inferInstanceAs (Decidable (k.SectionIsSafe (k.pc t)))

/-- Every task is in its own code and nothing is queued or signaled. -/
structure Fresh (k : Kernel) : Prop where
  own : ∀ t, k.pc t = .own
  notBlocked : ∀ t, k.sched.stateOf t ≠ .blocked
  ticks : ∀ t, (k.sched.osTasks t).wakeTick = 0
  queues : ∀ q, (k.sched.waitQueues q).toList = []

/-- No call is between two of its sections: every task is in its own code or blocked. -/
def Quiet (k : Kernel) : Prop := ∀ t, k.pc t = .own ∨ k.sched.stateOf t = .blocked

/-- The tasks that are to look at what the queue waits for, or to wake one of its tasks. -/
def pending (k : Kernel) (q : WaitQueue) : Set TaskId :=
  {t | k.pc t = .wake q ∨ k.sched.stateOf t ≠ .blocked ∧ (k.pc t).Looks q}

/-- The number by which a queue knows a task. -/
def entry (t : TaskId) : Int := t.val

lemma entry_injective : Function.Injective entry := fun t u h => by
  simp only [entry] at h
  exact Fin.ext (by omega)

/-- The entries of a queue, oldest first. -/
def queue (k : Kernel) (q : WaitQueue) : List Int := (k.sched.waitQueues q).toList

/-- The entries of the queues are the blocked tasks, each once, and the accounts are right. -/
structure Accounted (k : Kernel) : Prop where
  points : ∀ t, (k.pc t).OfIpc
  ticks : ∀ t, (k.sched.osTasks t).wakeTick = 0
  enlisted : Waiting.Enlisted entry k.queue (fun t => k.sched.stateOf t = .blocked)
    (fun t q => k.sched.InTable t ∧ (k.pc t).Looks q)
  counted : ∀ q, k.queue q ≠ [] → k.sched.available q ≤ (k.pending q).ncard
  events : ∀ e, k.queue (.event e) ≠ [] →
    k.sched.signaled e = false ∧ ∀ t, k.pc t ≠ .signalSet e

lemma Fresh.accounted {k : Kernel} (h : k.Fresh) : k.Accounted where
  points t := h.own t ▸ .own
  ticks := h.ticks
  enlisted := .empty h.queues h.notBlocked
  counted q hq := absurd (h.queues q) hq
  events _ he := absurd (h.queues _) he

end Kernel

variable {q : WaitQueue}

/-! ### Points -/

lemma Resume.For.ofIpc {next : Resume} (h : next.For q) : next.pc.OfIpc := by
  cases h with
  | recv c => exact .recv c (Or.inr rfl)
  | send c value => exact .send c value (Or.inr rfl)
  | event e => exact .own

lemma Pc.Looks.resume {next : Resume} (h : (Pc.switch next).Looks q) : next.pc.Looks q := by
  obtain ⟨next', hfor, hpc | hpc⟩ := h
  · exact absurd hpc.symm (next'.pc_ne_switch next)
  · cases hpc
    exact ⟨next, hfor, Or.inl rfl⟩

lemma IpcCall.enter_ofIpc (c : IpcCall) (ticks : UInt32) : (c.call.enter ticks).OfIpc := by
  cases c with
  | ipcSend channel value =>
    cases h : ipcChannel channel with
    | none => simpa [call, Call.enter, h] using Pc.OfIpc.own
    | some c => simpa [call, Call.enter, h] using Pc.OfIpc.send c value (Or.inl rfl)
  | ipcRecv channel out =>
    cases h : ipcRecvChannel channel out with
    | none => simpa [call, Call.enter, h] using Pc.OfIpc.own
    | some c => simpa [call, Call.enter, h] using Pc.OfIpc.recv c (Or.inl rfl)
  | ipcSendWait channel value =>
    cases h : ipcChannel channel with
    | none => simpa [call, Call.enter, h] using Pc.OfIpc.own
    | some c => simpa [call, Call.enter, h] using Pc.OfIpc.send c value (Or.inr rfl)
  | ipcRecvWait channel out =>
    cases h : ipcRecvChannel channel out with
    | none => simpa [call, Call.enter, h] using Pc.OfIpc.own
    | some c => simpa [call, Call.enter, h] using Pc.OfIpc.recv c (Or.inr rfl)
  | schedEventWait e => exact .eventTest e
  | schedEventSignal e => exact .signalWake e

lemma IpcCall.enter_ne_signalSet (c : IpcCall) (ticks : UInt32) (e : Nat) :
    c.call.enter ticks ≠ .signalSet e := by
  cases c with
  | ipcSend channel | ipcSendWait channel =>
    cases h : ipcChannel channel <;> simp [call, Call.enter, h]
  | ipcRecv channel out | ipcRecvWait channel out =>
    cases h : ipcRecvChannel channel out <;> simp [call, Call.enter, h]
  | schedEventWait | schedEventSignal => simp [call, Call.enter]

lemma Pc.Looks.eq_of_send {c : IpcChannel} {value : Int} {r : Retry}
    (h : (Pc.send c value r).Looks q) : q = .ipcSend c := by
  obtain ⟨next, hfor, hpc | hpc⟩ := h
  · cases hfor <;> cases hpc
    rfl
  · cases hpc

lemma Pc.Looks.eq_of_recv {c : IpcChannel} {r : Retry}
    (h : (Pc.recv c r).Looks q) : q = .ipcRecv c := by
  obtain ⟨next, hfor, hpc | hpc⟩ := h
  · cases hfor <;> cases hpc
    rfl
  · cases hpc

/-- Points at which a task is not to look at anything a queue counts. -/
def Pc.Idle : Pc → Prop
  | .own | .wait _ _ | .eventTest _ _ | .signalWake _ | .signalSet _ => True
  | _ => False

lemma Pc.Looks.available_eq_zero {pc : Pc} (h : pc.Looks q) (hidle : pc.Idle)
    (s : Sched) : s.available q = 0 := by
  obtain ⟨next, hfor, hpc | hpc⟩ := h
  · subst hpc
    cases hfor with
    | recv | send => exact hidle.elim
    | event e => rfl
  · subst hpc
    exact hidle.elim

lemma Pc.Looks.ne_wake {pc : Pc} {q q' : WaitQueue} (h : pc.Looks q) : pc ≠ .wake q' := by
  rintro rfl
  obtain ⟨next, hfor, hpc | hpc⟩ := h
  · cases hfor <;> cases hpc
  · cases hpc

namespace Kernel

variable {k k' : Kernel} {t u : TaskId} {q : WaitQueue}

lemma Accounted.of_same_queues (h : k.Accounted)
    (htable : k'.sched.osTaskCount = k.sched.osTaskCount) (hqueues : ∀ q, k'.queue q = k.queue q)
    (hblocked : ∀ t, k'.sched.stateOf t = .blocked ↔ k.sched.stateOf t = .blocked)
    (hticks : ∀ t, (k'.sched.osTasks t).wakeTick = 0) (hpoints : ∀ t, (k'.pc t).OfIpc)
    (hlooks : ∀ t q, k.sched.stateOf t = .blocked → (k.pc t).Looks q → (k'.pc t).Looks q)
    (hcounted : ∀ q, k.queue q ≠ [] → k'.sched.available q ≤ (k'.pending q).ncard)
    (hevents : ∀ e, k.queue (.event e) ≠ [] →
      k'.sched.signaled e = false ∧ ∀ t, k'.pc t ≠ .signalSet e) : k'.Accounted where
  points := hpoints
  ticks := hticks
  enlisted := h.enlisted.congr hqueues hblocked fun t q hst ⟨hin, hlook⟩ =>
    ⟨by simpa [Sched.InTable, htable] using hin, hlooks t q hst hlook⟩
  counted q hq := hcounted q (hqueues q ▸ hq)
  events e he := hevents e (hqueues _ ▸ he)

/-- The kernel after a section of the current task. -/
abbrev after (k : Kernel) (s : Sched) (pc : Pc) : Kernel :=
  { sched := s, pc := Function.update k.pc k.current pc }

lemma mem_pending_after_of_ne {s : Sched} {pc : Pc} (hne : t ≠ k.current)
    (hst : k.sched.stateOf t ≠ .blocked → s.stateOf t ≠ .blocked) (ht : t ∈ k.pending q) :
    t ∈ (k.after s pc).pending q := by
  have hpc : (k.after s pc).pc t = k.pc t := update_of_ne hne ..
  rcases ht with hwake | ⟨hnot, hlook⟩
  · exact Or.inl (hpc.trans hwake)
  · exact Or.inr ⟨hst hnot, hpc.symm ▸ hlook⟩

/-- How a section may change what one queue waits for, and the part of the current task in it. -/
inductive Balanced (k : Kernel) (s : Sched) (pc : Pc) (q : WaitQueue) : Prop
  | none (h : s.available q = 0)
  | less (h : s.available q ≤ k.sched.available q) (ht : k.current ∉ k.pending q)
  | taken (h : s.available q + 1 ≤ k.sched.available q)
  | given (h : s.available q ≤ k.sched.available q + 1) (ht : k.current ∉ k.pending q)
      (hpc : pc = .wake q)

lemma Balanced.counted {s : Sched} {pc : Pc} (h : k.Balanced s pc q)
    (htasks : s.osTasks = k.sched.osTasks) (hcounted : k.sched.available q ≤ (k.pending q).ncard) :
    s.available q ≤ ((k.after s pc).pending q).ncard := by
  have hothers : ∀ x, x ≠ k.current → x ∈ k.pending q → x ∈ (k.after s pc).pending q :=
    fun x hx => mem_pending_after_of_ne hx (by simp [Sched.stateOf, htasks])
  cases h with
  | none h => omega
  | less h ht =>
    have hsub : k.pending q ⊆ (k.after s pc).pending q := fun x hx =>
      hothers x (fun heq => ht (heq ▸ hx)) hx
    exact (h.trans hcounted).trans (Set.ncard_le_ncard hsub)
  | taken h =>
    have hle := Table.ncard_le_succ hothers
    omega
  | given h ht hpc =>
    have hsub : k.pending q ⊆ (k.after s pc).pending q := fun x hx =>
      hothers x (fun heq => ht (heq ▸ hx)) hx
    have hnew : k.current ∈ (k.after s pc).pending q :=
      Or.inl ((update_self ..).trans hpc)
    have hle := Table.ncard_succ_le hsub hnew ht
    omega

section

variable (h : k.Accounted) (hrun : k.sched.stateOf k.current ≠ .blocked)
include h hrun

lemma Accounted.of_section {s : Sched} {pc : Pc} (htable : s.osTaskCount = k.sched.osTaskCount)
    (htasks : s.osTasks = k.sched.osTasks) (hqueues : ∀ q, (s.waitQueues q).toList = k.queue q)
    (hpc : pc.OfIpc) (hbalance : ∀ q, k.queue q ≠ [] → k.Balanced s pc q)
    (hevents : ∀ e, k.queue (.event e) ≠ [] → s.signaled e = false ∧ pc ≠ .signalSet e) :
    (k.after s pc).Accounted := by
  refine h.of_same_queues htable hqueues (fun t => by simp [Sched.stateOf, htasks])
    (fun t => by simpa [htasks] using h.ticks t) (fun t => ?_) (fun t q hst hlook => ?_)
    (fun q hq => (hbalance q hq).counted htasks (h.counted q hq)) (fun e he => ?_)
  · by_cases ht : t = k.current
    · subst ht
      simpa using hpc
    · simpa [ht] using h.points t
  · have ht : t ≠ k.current := fun heq => hrun (heq ▸ hst)
    simpa [ht] using hlook
  · refine ⟨(hevents e he).1, fun t => ?_⟩
    by_cases ht : t = k.current
    · subst ht
      simpa using (hevents e he).2
    · simpa [ht] using (h.events e he).2 t

omit h hrun in
lemma not_mem_pending (hwake : k.currentPc ≠ .wake q) (hlook : ¬ k.currentPc.Looks q) :
    k.current ∉ k.pending q := by
  rintro (h | ⟨-, h⟩)
  · exact hwake h
  · exact hlook h

omit h hrun in
lemma balanced_of_idle {s : Sched} {pc : Pc} (hidle : k.currentPc.Idle)
    (havail : s.available q = k.sched.available q) : k.Balanced s pc q := by
  by_cases hlook : k.currentPc.Looks q
  · exact .none (hlook.available_eq_zero hidle s)
  · refine .less havail.le (not_mem_pending (fun hw => ?_) hlook)
    rw [hw] at hidle
    exact hidle

/-! ### One section -/

lemma Accounted.send {c : IpcChannel} {value : Int} {r : Retry}
    (hpc : k.currentPc = .send c value r)
    (hr : r = .once ∨ r = .wait) : k.advance.Accounted := by
  have hlook : ∀ q, q ≠ .ipcSend c → k.current ∉ k.pending q := fun q hq =>
    not_mem_pending (by simp [hpc]) fun hl => hq (by rw [hpc] at hl; exact hl.eq_of_send)
  rw [advance_of_pc hpc]
  by_cases hroom : (k.sched.ipcChannels c).count < 16
  · simp only [Pc.exec, ipcSendSection, hroom, dif_pos, if_true]
    refine h.of_section hrun rfl rfl (fun _ => rfl) (.wakeRecv c) (fun q _ => ?_)
      (fun e he => ⟨(h.events e he).1, by simp⟩)
    cases q with
    | ipcRecv c' =>
      by_cases hc : c' = c
      · subst hc
        exact .given (by simp [Sched.available, Sched.setChannel]) (hlook _ (by simp)) rfl
      · exact .less (by simp [Sched.available, Sched.setChannel, hc]) (hlook _ (by simp))
    | ipcSend c' =>
      by_cases hc : c' = c
      · subst hc
        exact .taken (by simp [Sched.available, Sched.setChannel]; omega)
      · exact .less (by simp [Sched.available, Sched.setChannel, hc]) (hlook _ (by simp [hc]))
    | event | other => exact .none rfl
  · simp only [Pc.exec, ipcSendSection, hroom, dif_neg, not_false_iff, Bool.false_eq_true, if_false]
    have hnext : (r.next (.ipcSend c) (.send c value r)).OfIpc := by
      rcases hr with rfl | rfl
      · exact .own
      · exact .wait (.send c value)
    refine h.of_section hrun rfl rfl (fun _ => rfl) hnext (fun q _ => ?_)
      (fun e he => ⟨(h.events e he).1, by rcases hr with rfl | rfl <;> simp [Retry.next]⟩)
    by_cases hq : q = .ipcSend c
    · subst hq
      exact .none (by simp [Sched.available]; omega)
    · exact .less le_rfl (hlook q hq)

lemma Accounted.recv {c : IpcChannel} {r : Retry} (hpc : k.currentPc = .recv c r)
    (hr : r = .once ∨ r = .wait) : k.advance.Accounted := by
  have hlook : ∀ q, q ≠ .ipcRecv c → k.current ∉ k.pending q := fun q hq =>
    not_mem_pending (by simp [hpc]) fun hl => hq (by rw [hpc] at hl; exact hl.eq_of_recv)
  rw [advance_of_pc hpc]
  by_cases hsome : 0 < (k.sched.ipcChannels c).count
  · simp only [Pc.exec, ipcRecvSection, hsome, dif_pos, Option.isSome_some, if_true]
    refine h.of_section hrun rfl rfl (fun _ => rfl) (.wakeSend c) (fun q _ => ?_)
      (fun e he => ⟨(h.events e he).1, by simp⟩)
    cases q with
    | ipcSend c' =>
      by_cases hc : c' = c
      · subst hc
        exact .given (by simp [Sched.available, Sched.setChannel]; omega) (hlook _ (by simp)) rfl
      · exact .less (by simp [Sched.available, Sched.setChannel, hc]) (hlook _ (by simp))
    | ipcRecv c' =>
      by_cases hc : c' = c
      · subst hc
        exact .taken (by simp [Sched.available, Sched.setChannel]; omega)
      · exact .less (by simp [Sched.available, Sched.setChannel, hc]) (hlook _ (by simp [hc]))
    | event | other => exact .none rfl
  · simp only [Pc.exec, ipcRecvSection, hsome, dif_neg, not_false_iff, Option.isSome_none,
      Bool.false_eq_true, if_false]
    have hnext : (r.next (.ipcRecv c) (.recv c r)).OfIpc := by
      rcases hr with rfl | rfl
      · exact .own
      · exact .wait (.recv c)
    refine h.of_section hrun rfl rfl (fun _ => rfl) hnext (fun q _ => ?_)
      (fun e he => ⟨(h.events e he).1, by rcases hr with rfl | rfl <;> simp [Retry.next]⟩)
    by_cases hq : q = .ipcRecv c
    · subst hq
      exact .none (by simp [Sched.available]; omega)
    · exact .less le_rfl (hlook q hq)

lemma Accounted.eventTest {e : Nat}
    (hpc : k.currentPc = .eventTest e none) : k.advance.Accounted := by
  have hidle : k.currentPc.Idle := by rw [hpc]; exact True.intro
  rw [advance_of_pc hpc]
  by_cases hsig : k.sched.signaled e = true
  · simp only [Pc.exec, schedEventTestSection, hsig, if_true]
    refine h.of_section hrun rfl rfl (fun _ => rfl) .own (fun q _ => balanced_of_idle hidle ?_)
      (fun e' he' => ⟨?_, by simp⟩)
    · cases q <;> rfl
    · have hold := (h.events e' he').1
      by_cases hee : e' = e
      · subst hee
        simp
      · simpa [hee] using hold
  · simp only [Pc.exec, schedEventTestSection, hsig, if_false, Bool.false_eq_true]
    exact h.of_section hrun rfl rfl (fun _ => rfl) (.wait (.event e))
      (fun q _ => balanced_of_idle hidle rfl) (fun e' he' => ⟨(h.events e' he').1, by simp⟩)

lemma Accounted.signalSet {e : Nat} (hpc : k.currentPc = .signalSet e) : k.advance.Accounted := by
  have hidle : k.currentPc.Idle := by rw [hpc]; exact True.intro
  rw [advance_of_pc hpc]
  refine h.of_section hrun rfl rfl (fun _ => rfl) .own (fun q _ => balanced_of_idle hidle ?_)
    (fun e' he' => ⟨?_, by simp [Pc.exec]⟩)
  · cases q <;> rfl
  · -- the queue of an event that is being signaled is empty
    obtain ⟨hold, hnone⟩ := h.events e' he'
    have hee : e' ≠ e := by
      rintro rfl
      exact hnone k.current hpc
    simpa [Pc.exec, schedEventSetSection, hee] using hold

omit h hrun in
lemma counted_of_not_pending {s : Sched} {pc : Pc} (hnot : k.current ∉ k.pending q)
    (hst : ∀ t, t ≠ k.current → k.sched.stateOf t ≠ .blocked → s.stateOf t ≠ .blocked)
    (havail : s.available q = k.sched.available q)
    (hcounted : k.sched.available q ≤ (k.pending q).ncard) :
    s.available q ≤ ((k.after s pc).pending q).ncard := by
  have hsub : k.pending q ⊆ (k.after s pc).pending q := by
    intro x hx
    have hxc : x ≠ k.current := fun heq => hnot (heq ▸ hx)
    exact mem_pending_after_of_ne hxc (hst x hxc) hx
  exact (havail.trans_le hcounted).trans (Set.ncard_le_ncard hsub)

lemma Accounted.enqueue {next : Resume} (hpc : k.currentPc = .wait q next) (hfor : next.For q)
    (hmissing : k.StillMissing q) (hroom : (k.sched.waitQueues q).count < 8) :
    (k.after (waitQueueWaitSection q k.sched) (.switch next)).Accounted := by
  have hidle : k.currentPc.Idle := by rw [hpc]; exact True.intro
  rw [waitQueueWaitSection, dif_pos hroom]
  change (k.after ((k.sched.setQueue q ((k.sched.waitQueues q).push (entry k.current) hroom)).setTask
    _ _) _).Accounted
  set r := (k.sched.waitQueues q).push (entry k.current) hroom
  set s := (k.sched.setQueue q r).setTask k.sched.osCurrentTask
    { k.sched.osTasks k.sched.osCurrentTask with state := .blocked } with hs
  have hsame : (k.after s (.switch next)).queue q = k.queue q ++ [entry k.current] := by
    simpa [queue, hs] using RingBuffer.toList_push _ _ hroom
  have hother : ∀ q', q' ≠ q → (k.after s (.switch next)).queue q' = k.queue q' := fun q' hq' => by
    simp [queue, hs, Sched.setQueue, hq']
  have hpoint : (k.after s (.switch next)).pc k.current = .switch next := update_self ..
  have hstate : ∀ t, t ≠ k.current → s.stateOf t = k.sched.stateOf t := fun t ht => by
    simp [hs, Sched.stateOf, ht]
  have havail : ∀ q', s.available q' = k.sched.available q' := fun q' => by cases q' <;> rfl
  refine ⟨fun t => ?_, fun t => ?_, ?_, fun q' hq' => ?_, fun e he => ?_⟩
  · by_cases ht : t = k.current
    · subst ht
      exact hpoint.symm ▸ .switch hfor
    · simpa [ht] using h.points t
  · by_cases ht : t = k.current
    · subst ht
      simpa [hs] using h.ticks k.current
    · simpa [hs, ht] using h.ticks t
  · refine h.enlisted.push entry_injective hrun hsame hother (fun t => ?_) (fun t q' hst hsuits => ?_)
      ⟨k.sched.current_lt, hpoint.symm ▸ ⟨next, hfor, Or.inr rfl⟩⟩
    · by_cases ht : t = k.current
      · subst ht
        simp [hs, Sched.stateOf]
      · simp [hstate t ht, ht]
    · have ht : t ≠ k.current := fun heq => hrun (heq ▸ hst)
      exact ⟨hsuits.1, by simpa [ht] using hsuits.2⟩
  · by_cases hqq : q' = q
    · -- what the task waits for is missing, so there is nothing to account for
      subst hqq
      have hzero : s.available q' = 0 := by
        cases q' with
        | ipcRecv c => exact hmissing
        | ipcSend c =>
          have hfull : (k.sched.ipcChannels c).count = 16 := hmissing
          rw [havail, Sched.available, hfull]
        | event e => rfl
        | other n => rfl
      exact hzero.trans_le (Nat.zero_le _)
    · by_cases hlook : k.currentPc.Looks q'
      · exact (hlook.available_eq_zero hidle s).trans_le (Nat.zero_le _)
      · exact counted_of_not_pending (not_mem_pending (by simp [hpc]) hlook)
          (fun t ht => by simp [hstate t ht]) (havail q') (h.counted q' (hother q' hqq ▸ hq'))
  · have hold : k.sched.signaled e = false ∧ ∀ t, k.pc t ≠ .signalSet e := by
      by_cases hqe : (.event e : WaitQueue) = q
      · subst hqe
        exact hmissing
      · exact h.events e (hother _ hqe ▸ he)
    refine ⟨hold.1, fun t => ?_⟩
    by_cases ht : t = k.current
    · subst ht
      simp
    · simpa [ht] using hold.2 t

lemma Accounted.wait {next : Resume} (hpc : k.currentPc = .wait q next) (hfor : next.For q)
    (hmissing : k.StillMissing q) : k.advance.Accounted := by
  have hidle : k.currentPc.Idle := by rw [hpc]; exact True.intro
  rw [advance_of_pc hpc]
  by_cases hroom : (k.sched.waitQueues q).count < 8
  · exact h.enqueue hrun hpc hfor hmissing hroom
  · simp only [Pc.exec, waitQueueWaitSection, hroom, dif_neg, not_false_iff]
    exact h.of_section hrun rfl rfl (fun _ => rfl) (.switch hfor)
      (fun q' _ => balanced_of_idle hidle rfl) (fun e he => ⟨(h.events e he).1, by simp⟩)

omit h hrun in
lemma Accounted.wakeOne_cases (h : k.Accounted) (q : WaitQueue) :
    (∃ r, waitQueueWakeOne q k.sched = (k.sched.setQueue q r, false) ∧ r.toList = [] ∧
        k.queue q = []) ∨
      ∃ r u, waitQueueWakeOne q k.sched =
          ((k.sched.setQueue q r).setTask u (k.sched.osTasks u).wake, true) ∧
        k.queue q = entry u :: r.toList ∧ k.sched.stateOf u = .blocked ∧ (k.pc u).Looks q := by
  have hblocked : ∀ id ∈ k.queue q, k.sched.blockedAt id ≠ none := by
    intro id hid hnone
    obtain ⟨t, rfl, hst, hin, -⟩ := h.enlisted.entered hid
    have hsome : k.sched.blockedAt (entry t) = some t := Sched.blockedAt_eq_some.2 ⟨rfl, hin, hst⟩
    simp [hsome] at hnone
  rcases waitQueueWakeOne_cases q k.sched with
    ⟨r, hrun, hnil, hnone⟩ | ⟨r, u, dropped, hrun, hlist, hdrop, hin, hst⟩
  · refine Or.inl ⟨r, hrun, hnil, ?_⟩
    by_contra hne
    obtain ⟨id, hid⟩ := List.exists_mem_of_ne_nil _ hne
    exact hblocked id hid (hnone id hid)
  · have hnone : dropped = [] := by
      by_contra hne
      obtain ⟨id, hid⟩ := List.exists_mem_of_ne_nil _ hne
      refine hblocked id ?_ (hdrop id hid)
      change id ∈ (k.sched.waitQueues q).toList
      rw [hlist]
      exact List.mem_append_left _ hid
    subst hnone
    have hqueue : k.queue q = entry u :: r.toList := hlist
    obtain ⟨t, ht, -, -, hlook⟩ := h.enlisted.entered (q := q) (i := entry u) (by simp [hqueue])
    exact Or.inr ⟨r, u, hrun, hqueue, hst, entry_injective ht ▸ hlook⟩

lemma Accounted.wake_none {r : RingBuffer Int 8} {pc : Pc} (hnil : r.toList = [])
    (hempty : k.queue q = []) (hpc : pc.OfIpc) (hnot : ∀ q', q' ≠ q → k.current ∉ k.pending q')
    (hset : ∀ e, pc = .signalSet e → q = .event e) :
    (k.after (k.sched.setQueue q r) pc).Accounted := by
  refine h.of_section hrun rfl rfl (fun q' => ?_) hpc (fun q' hq' => ?_) (fun e he => ?_)
  · by_cases hqq : q' = q
    · subst hqq
      simp [hnil, hempty]
    · simp [queue, Sched.setQueue, hqq]
  · have hqq : q' ≠ q := fun heq => hq' (heq ▸ hempty)
    exact .less (by cases q' <;> exact le_rfl) (hnot q' hqq)
  · refine ⟨(h.events e he).1, fun heq => he ?_⟩
    rw [← hset e heq]
    exact hempty

/-- The first task of the queue was woken: it is the one to look now, in place of the waker. -/
lemma Accounted.wake_some {r : RingBuffer Int 8} (hqueue : k.queue q = entry u :: r.toList)
    (hst : k.sched.stateOf u = .blocked) (hlook : (k.pc u).Looks q)
    (hnot : ∀ q', q' ≠ q → k.current ∉ k.pending q') :
    (k.after ((k.sched.setQueue q r).setTask u (k.sched.osTasks u).wake) .own).Accounted := by
  have hne : u ≠ k.current := fun heq => hrun (heq ▸ hst)
  set s := (k.sched.setQueue q r).setTask u (k.sched.osTasks u).wake with hs
  have hother : ∀ q', q' ≠ q → (k.after s .own).queue q' = k.queue q' := fun q' hq' => by
    simp [queue, hs, Sched.setQueue, hq']
  have hsame : (k.after s .own).queue q = r.toList := by simp [queue, hs]
  have hstate : ∀ t, t ≠ u → s.stateOf t = k.sched.stateOf t := fun t ht => by
    simp [hs, Sched.stateOf, ht]
  have hready : s.stateOf u = .ready := by simp [hs, Sched.stateOf, Tcb.wake]
  have hpc : ∀ t, t ≠ k.current → (k.after s .own).pc t = k.pc t := fun t ht =>
    update_of_ne ht ..
  have hkeep : ∀ t, k.sched.stateOf t ≠ .blocked → s.stateOf t ≠ .blocked := by
    intro t ht
    by_cases htu : t = u
    · subst htu
      simp [hready]
    · rwa [hstate t htu]
  have hnonempty : ∀ q', (k.after s .own).queue q' ≠ [] → k.queue q' ≠ [] := by
    intro q' hq'
    by_cases hqq : q' = q
    · subst hqq
      simp [hqueue]
    · exact hother q' hqq ▸ hq'
  refine ⟨fun t => ?_, fun t => ?_, ?_, fun q' hq' => ?_, fun e he => ?_⟩
  · by_cases ht : t = k.current
    · subst ht
      simpa using Pc.OfIpc.own
    · exact hpc t ht ▸ h.points t
  · by_cases htu : t = u
    · subst htu
      simp [hs, Tcb.wake]
    · simpa [hs, htu] using h.ticks t
  · refine h.enlisted.pop entry_injective (hsame ▸ hqueue) hother (fun t => ?_)
      (fun t q' hblocked hsuits => ?_)
    · by_cases htu : t = u
      · subst htu
        simp [hready]
      · simp [hstate t htu, htu]
    · have ht : t ≠ k.current := fun heq => hrun (heq ▸ hblocked)
      exact ⟨hsuits.1, (hpc t ht).symm ▸ hsuits.2⟩
  · have hcounted := h.counted q' (hnonempty q' hq')
    by_cases hqq : q' = q
    · subst hqq
      have hnew : u ∈ (k.after s .own).pending q' :=
        Or.inr ⟨by simp [hready], (hpc u hne).symm ▸ hlook⟩
      have hold : u ∉ k.pending q' := by
        rintro (hw | ⟨hnb, -⟩)
        · exact hlook.ne_wake hw
        · exact hnb hst
      have hle := Table.ncard_le_of_exchange (t := k.current)
        (fun x hx => mem_pending_after_of_ne hx (hkeep x)) hnew hold
      exact le_trans (by cases q' <;> exact le_rfl) (hcounted.trans hle)
    · exact counted_of_not_pending (hnot q' hqq) (fun t _ => hkeep t) (by cases q' <;> rfl) hcounted
  · have hold := h.events e (hnonempty _ he)
    refine ⟨hold.1, fun t => ?_⟩
    by_cases ht : t = k.current
    · subst ht
      simp
    · exact hpc t ht ▸ hold.2 t

lemma Accounted.wake (hpc : k.currentPc = .wake q) : k.advance.Accounted := by
  have hnot : ∀ q', q' ≠ q → k.current ∉ k.pending q' := fun q' hq' =>
    not_mem_pending (by simpa [hpc] using hq'.symm) fun hl => hl.ne_wake hpc
  rw [advance_of_pc hpc]
  rcases h.wakeOne_cases q with ⟨r, hone, hnil, hempty⟩ | ⟨r, u, hone, hqueue, hst, hlook⟩
  · simp only [Pc.exec, hone]
    exact h.wake_none hrun hnil hempty .own hnot (by simp)
  · simp only [Pc.exec, hone]
    exact h.wake_some hrun hqueue hst hlook hnot

lemma Accounted.signalWake {e : Nat} (hpc : k.currentPc = .signalWake e) : k.advance.Accounted := by
  have hnot : ∀ q', q' ≠ .event e → k.current ∉ k.pending q' := fun q' hq' => by
    refine not_mem_pending (by simp [hpc]) fun hl => ?_
    obtain ⟨next, hfor, hn | hn⟩ := hl
    · rw [hpc] at hn
      cases hfor <;> cases hn
    · rw [hpc] at hn
      cases hn
  rw [advance_of_pc hpc]
  rcases h.wakeOne_cases (.event e) with ⟨r, hone, hnil, hempty⟩ | ⟨r, u, hone, hqueue, hst, hlook⟩
  · simp only [Pc.exec, hone, Bool.false_eq_true, if_false]
    refine h.wake_none hrun hnil hempty (.signalSet e) hnot fun e' he' => ?_
    cases he'
    rfl
  · simp only [Pc.exec, hone, if_true]
    exact h.wake_some hrun hqueue hst hlook hnot

end

section

variable (h : k.Accounted)
include h

lemma Accounted.not_due (t : TaskId) (ticks : UInt32) :
    ¬ (k.sched.osTasks t).Due ticks := fun hdue => hdue.2.1 (h.ticks t)

lemma Accounted.switch_stateOf (hsome : ∃ u, k.sched.InTable u ∧ (k.sched.stateOf u).Runnable)
    (t : TaskId) :
    (schedulerSelectAndSwitch false k.sched).stateOf t = .blocked ↔
      k.sched.stateOf t = .blocked := by
  have hbefore : ∀ t, (k.sched.beforePick false).stateOf t = k.sched.stateOf t := fun t => by
    rw [Sched.beforePick_false_stateOf, if_neg fun hdue => h.not_due t _ hdue.2]
  by_cases ht : t = (schedulerSelectAndSwitch false k.sched).osCurrentTask
  · have hpicked :
        (k.sched.stateOf (schedulerSelectAndSwitch false k.sched).osCurrentTask).Runnable := by
      obtain ⟨u, hu, hrunnable⟩ := hsome
      rcases schedulerSelectAndSwitch_cases false k.sched with
        ⟨-, hr⟩ | ⟨-, hr, hnew⟩ | ⟨-, -, -, hr⟩ | ⟨hno, -⟩
      · exact Or.inl (hbefore _ ▸ hr)
      · exact Or.inr (hnew ▸ hbefore _ ▸ hr)
      · exact Or.inr (hbefore _ ▸ hr)
      · exact absurd (hbefore u ▸ hrunnable) (hno u hu)
    rw [ht, schedulerSelectAndSwitch_running]
    rcases hpicked with hp | hp <;> simp [hp]
  · rw [schedulerSelectAndSwitch_stateOf_of_ne false k.sched ht, hbefore]

lemma Accounted.switch_ticks (t : TaskId) :
    ((schedulerSelectAndSwitch false k.sched).osTasks t).wakeTick = 0 := by
  have hwoken : (k.sched.beforePick false).osTasks t = k.sched.osTasks t := by
    exact if_neg fun hdue => h.not_due t _ hdue.2
  have hwake : ((k.sched.beforePick false).osTasks t).wakeTick = 0 := by rw [hwoken, h.ticks t]
  by_cases ht : t = (schedulerSelectAndSwitch false k.sched).osCurrentTask
  · have hrun : (schedulerSelectAndSwitch false k.sched).osTasks t =
        ((k.sched.beforePick false).osTasks t).run := by
      rw [ht]
      exact update_self ..
    rw [hrun]
    exact hwake
  · have hsame : (schedulerSelectAndSwitch false k.sched).osTasks t =
        (k.sched.beforePick false).osTasks t := update_of_ne ht ..
    rw [hsame]
    exact hwake

lemma Accounted.switch {next : Resume} (hpc : k.pc k.current = .switch next)
    (hsome : ∃ u, k.sched.InTable u ∧ (k.sched.stateOf u).Runnable) : k.advance.Accounted := by
  have hfor : ∃ q, next.For q := by
    have hof := h.points k.current
    rw [hpc] at hof
    cases hof with
    | switch hfor => exact ⟨_, hfor⟩
  obtain ⟨q₀, hfor⟩ := hfor
  rw [advance_of_pc hpc]
  change (k.after (schedulerSelectAndSwitch false k.sched) next.pc).Accounted
  have hcurrent : (k.after (schedulerSelectAndSwitch false k.sched) next.pc).pc k.current =
      next.pc := update_self ..
  have hpcs : ∀ t, t ≠ k.current →
      (k.after (schedulerSelectAndSwitch false k.sched) next.pc).pc t = k.pc t := fun t ht =>
    update_of_ne ht ..
  have hlooks : ∀ t q, (k.pc t).Looks q →
      ((k.after (schedulerSelectAndSwitch false k.sched) next.pc).pc t).Looks q := by
    intro t q hlook
    by_cases ht : t = k.current
    · subst ht
      rw [hcurrent]
      rw [hpc] at hlook
      exact hlook.resume
    · rwa [hpcs t ht]
  have hstate := h.switch_stateOf hsome
  refine h.of_same_queues (schedulerSelectAndSwitch_osTaskCount _ _) (fun q => ?_) hstate
    h.switch_ticks (fun t => ?_) (fun t q _ => hlooks t q) (fun q hq => ?_) (fun e he => ?_)
  · rfl
  · by_cases ht : t = k.current
    · subst ht
      exact hcurrent.symm ▸ hfor.ofIpc
    · exact (hpcs t ht).symm ▸ h.points t
  · have hsub : k.pending q ⊆
        (k.after (schedulerSelectAndSwitch false k.sched) next.pc).pending q := by
      rintro x (hw | ⟨hnb, hlook⟩)
      · have hx : x ≠ k.current := by
          rintro rfl
          rw [hpc] at hw
          cases hw
        exact Or.inl ((hpcs x hx).trans hw)
      · exact Or.inr ⟨fun hb => hnb ((hstate x).1 hb), hlooks x q hlook⟩
    refine le_trans ?_ ((h.counted q hq).trans (Set.ncard_le_ncard hsub))
    cases q <;> exact le_rfl
  · obtain ⟨hsig, hnone⟩ := h.events e he
    refine ⟨hsig, fun t => ?_⟩
    by_cases ht : t = k.current
    · subst ht
      cases hfor <;> simp [Resume.pc]
    · rw [hpcs t ht]
      exact hnone t

/-- Every section of a task that can go keeps the accounts, if the turn is safe. -/
theorem Accounted.advance (hgo : k.CanGo k.current)
    (hsafe : k.TurnIsSafe (.go k.current)) : k.advance.Accounted := by
  by_cases hswitch : ∃ next, k.pc k.current = .switch next
  · obtain ⟨next, hpc⟩ := hswitch
    simp only [TurnIsSafe, hpc, SectionIsSafe] at hsafe
    exact h.switch hpc hsafe
  · have hrun : k.sched.stateOf k.current ≠ .blocked := by
      rcases hgo.2 with hr | hs
      · rcases hr with hr | hr <;> simp [hr]
      · cases hpc : k.pc k.current <;> simp [hpc, Pc.isSwitch] at hs
        exact absurd ⟨_, hpc⟩ hswitch
    have hof := h.points k.current
    cases hpc : k.pc k.current with
    | own =>
      rw [advance_of_pc hpc]
      have hsame : update k.pc k.current Pc.own = k.pc := by
        rw [← hpc]
        exact Function.update_eq_self ..
      simpa [Pc.exec, hsame] using h
    | send c value r =>
      rw [hpc] at hof
      cases hof with
      | send _ _ hr => exact h.send hrun hpc hr
    | recv c r =>
      rw [hpc] at hof
      cases hof with
      | recv _ hr => exact h.recv hrun hpc hr
    | wait q next =>
      rw [hpc] at hof
      simp only [TurnIsSafe, hpc, SectionIsSafe] at hsafe
      cases hof with
      | wait hfor => exact h.wait hrun hpc hfor hsafe
    | wake q => exact h.wake hrun hpc
    | switch next => exact absurd ⟨next, hpc⟩ hswitch
    | eventTest e m =>
      rw [hpc] at hof
      cases hof with
      | eventTest => exact h.eventTest hrun hpc
    | signalWake e => exact h.signalWake hrun hpc
    | signalSet e => exact h.signalSet hrun hpc
    | _ =>
      rw [hpc] at hof
      cases hof

/-- A call begins: the task may now be one of those that look, and was not before. -/
lemma Accounted.call (hown : k.pc t = .own) (hrun : k.sched.stateOf t ≠ .blocked) (c : IpcCall)
    (ticks : UInt32) :
    (k.setPc t (c.call.enter ticks)).Accounted := by
  have hpcs : ∀ u, u ≠ t → (k.setPc t (c.call.enter ticks)).pc u = k.pc u := fun u hu =>
    update_of_ne hu ..
  have hentered : (k.setPc t (c.call.enter ticks)).pc t = c.call.enter ticks :=
    update_self ..
  refine h.of_same_queues rfl (fun _ => rfl) (fun _ => Iff.rfl) h.ticks (fun u => ?_)
    (fun u q hst hlook => ?_) (fun q hq => ?_) (fun e he => ⟨(h.events e he).1, fun u => ?_⟩)
  · by_cases hu : u = t
    · subst hu
      exact hentered.symm ▸ c.enter_ofIpc ticks
    · exact (hpcs u hu).symm ▸ h.points u
  · have hu : u ≠ t := fun heq => hrun (heq ▸ hst)
    exact (hpcs u hu).symm ▸ hlook
  · by_cases hlook : Pc.own.Looks q
    · exact (hlook.available_eq_zero True.intro _).trans_le (Nat.zero_le _)
    · have hnot : t ∉ k.pending q := by
        rintro (hw | ⟨-, hl⟩)
        · rw [hown] at hw
          cases hw
        · exact hlook (hown ▸ hl)
      have hsub : k.pending q ⊆ (k.setPc t (c.call.enter ticks)).pending q := by
        intro u hu
        have hut : u ≠ t := fun heq => hnot (heq ▸ hu)
        rcases hu with hw | ⟨hnb, hl⟩
        · exact Or.inl ((hpcs u hut).trans hw)
        · exact Or.inr ⟨hnb, (hpcs u hut).symm ▸ hl⟩
      exact (h.counted q hq).trans (Set.ncard_le_ncard hsub)
  · by_cases hu : u = t
    · subst hu
      rw [hentered]
      exact c.enter_ne_signalSet ticks e
    · exact (hpcs u hu).symm ▸ (h.events e he).2 u

/-! ### Whole runs -/

lemma Accounted.turn (o : Turn) (hsafe : k.TurnIsSafe o) : (k.turn o).1.Accounted := by
  cases o with
  | call t c =>
    simp only [Kernel.turn]
    split_ifs with hgo
    · have hrun : k.sched.stateOf t ≠ .blocked := by
        rcases hgo.1.2 with (hr | hr) | hs
        · simp [hr]
        · simp [hr]
        · simp [hgo.2, Pc.isSwitch] at hs
      exact h.call hgo.2 hrun c _
    · exact h
  | go t =>
    simp only [Kernel.turn]
    split_ifs with hgo
    · -- the accounts do not depend on who has the processor
      have hresumed : (k.resume t hgo.1).Accounted :=
        ⟨h.points, h.ticks, h.enlisted, h.counted, h.events⟩
      exact hresumed.advance hgo hsafe
    · exact h

lemma Accounted.pending_eq_empty (hquiet : k.Quiet) {c : IpcChannel}
    (hq : q = .ipcRecv c ∨ q = .ipcSend c) : k.pending q = ∅ := by
  refine Set.eq_empty_of_forall_notMem fun t ht => ?_
  have hown : ¬ Pc.own.Looks q := by
    rintro ⟨next, hfor, hpc | hpc⟩
    · rcases hq with rfl | rfl <;> cases hfor <;> cases hpc
    · cases hpc
  rcases ht with hw | ⟨hnb, hlook⟩
  · rcases hquiet t with ho | hb
    · rw [ho] at hw
      cases hw
    · obtain ⟨q', hq'⟩ := h.enlisted.listed hb
      obtain ⟨u, hu, -, -, hlook⟩ := h.enlisted.entered hq'
      exact hlook.ne_wake (entry_injective hu ▸ hw)
  · exact hown ((hquiet t).resolve_right hnb ▸ hlook)

end

end Kernel

open Kernel

/-- From any start and along any interleaving in which a task goes on a queue only while it has to
wait: every blocked task is on a queue; a task that waits for a message that is there has another
task on its way to the channel; and when no call is in progress a receiver waits only for an empty
channel, a sender for a full one and a waiter for an event that is not signaled. -/
theorem no_lost_wakeup {k : Kernel} (hfresh : k.Fresh) {turns : List Turn}
    (hsafe : Machine.Runs TurnIsSafe Kernel.turn k turns) :
    let k' := Machine.run Kernel.turn k turns
    (∀ t, k'.sched.stateOf t = .blocked → ∃ q, k'.sched.WaitsIn q t) ∧
      (∀ c t, k'.sched.WaitsIn (.ipcRecv c) t → 0 < (k'.sched.ipcChannels c).count →
        ∃ u, u ≠ t ∧ u ∈ k'.pending (.ipcRecv c)) ∧
      (k'.Quiet → ∀ t,
        (∀ c, k'.sched.WaitsIn (.ipcRecv c) t → (k'.sched.ipcChannels c).count = 0) ∧
        (∀ c, k'.sched.WaitsIn (.ipcSend c) t → (k'.sched.ipcChannels c).count = 16) ∧
        ∀ e, k'.sched.WaitsIn (.event e) t → k'.sched.signaled e = false) := by
  intro k'
  have h : k'.Accounted :=
    Machine.run_invariant (fun k o hk ho => hk.turn o ho) hfresh.accounted hsafe
  have hnonempty : ∀ {q t}, k'.sched.WaitsIn q t → k'.queue q ≠ [] := fun hw =>
    List.ne_nil_of_mem hw.2
  refine ⟨fun t ht => ?_, fun c t hw hpos => ?_, fun hquiet t => ⟨fun c hw => ?_, fun c hw => ?_,
    fun e hw => (h.events e (hnonempty hw)).1⟩⟩
  · obtain ⟨q, hq⟩ := h.enlisted.listed ht
    exact ⟨q, ht, hq⟩
  · have hcounted := h.counted _ (hnonempty hw)
    have hcard : (k'.pending (.ipcRecv c)).ncard ≠ 0 := by
      have havail : k'.sched.available (.ipcRecv c) = (k'.sched.ipcChannels c).count := rfl
      omega
    obtain ⟨u, hu⟩ := Set.nonempty_of_ncard_ne_zero hcard
    refine ⟨u, ?_, hu⟩
    rintro rfl
    obtain ⟨t', ht', -, -, hlook⟩ := h.enlisted.entered hw.2
    rcases hu with hwake | ⟨hnb, -⟩
    · exact hlook.ne_wake (entry_injective ht' ▸ hwake)
    · exact hnb hw.1
  · have hcounted := h.counted _ (hnonempty hw)
    rw [h.pending_eq_empty hquiet (Or.inl rfl), Set.ncard_empty] at hcounted
    exact Nat.le_zero.1 hcounted
  · have hcounted := h.counted _ (hnonempty hw)
    rw [h.pending_eq_empty hquiet (Or.inr rfl), Set.ncard_empty] at hcounted
    have hroom : 16 - (k'.sched.ipcChannels c).count ≤ 0 := hcounted
    have hle := (k'.sched.ipcChannels c).count_le
    omega

/-- Two tasks, just started. -/
def twoTasks : Kernel := reached [.create 1 (-1)]

lemma twoTasks_fresh : twoTasks.Fresh where
  own := by decide
  notBlocked := by decide
  ticks := by decide
  queues _ := rfl

/-- Task 0 waits for a message while nobody sends one. -/
theorem no_lost_wakeup_receiver :
    ∃ turns, Machine.Runs TurnIsSafe Kernel.turn twoTasks turns ∧
      let k := Machine.run Kernel.turn twoTasks turns
      k.sched.WaitsIn (.ipcRecv 0) 0 ∧ (k.sched.ipcChannels 0).count = 0 := by
  have hsafe : Machine.Runs TurnIsSafe Kernel.turn twoTasks
      [.call 0 (.ipcRecvWait 0 true), .go 0, .go 0, .go 0] :=
    ⟨True.intro, by decide, by decide, by decide, True.intro⟩
  have hwaits : (Machine.run Kernel.turn twoTasks
      [.call 0 (.ipcRecvWait 0 true), .go 0, .go 0, .go 0]).sched.WaitsIn (.ipcRecv 0) 0 :=
    ⟨by decide, by decide⟩
  have hquiet : (Machine.run Kernel.turn twoTasks
      [.call 0 (.ipcRecvWait 0 true), .go 0, .go 0, .go 0]).Quiet := by
    unfold Quiet
    decide
  exact ⟨_, hsafe, hwaits, ((no_lost_wakeup twoTasks_fresh hsafe).2.2 hquiet 0).1 0 hwaits⟩

/-- Task 0 finds the channel empty, task 1 sends and finds nobody to wake, and task 0 goes to
sleep on the message. -/
theorem lost_wakeup :
    let k := Machine.run Kernel.turn twoTasks
      [.call 0 (.ipcRecvWait 0 true), .go 0, .call 1 (.ipcSend 0 7), .go 1, .go 1, .go 0, .go 0]
    k.Quiet ∧ k.sched.WaitsIn (.ipcRecv 0) 0 ∧ (k.sched.ipcChannels 0).count = 1 := by
  refine ⟨?_, ⟨by decide, by decide⟩, by decide⟩
  unfold Quiet
  decide

end NeuroSpark
