import NeuroSpark.Sched.Wakeups

/-!
# IPC channels as queues

Every send and every receive comes to attempts, each of which is one locked section of `ipc_send` or
`ipc_recv`. The tasks interleave in any way between their sections, with timer interrupts and new
tasks in between. A channel is a queue of what the attempts store and take, in the order in which
they get the lock, and a call moves one value or none, as its answer says.
-/

namespace NeuroSpark

open Function (update update_self update_of_ne)

variable {c : Call} {ticks : UInt32}

/-! ### Attempts -/

/-- What an attempt did at a channel. -/
inductive ChannelEvent where
  | sent (c : IpcChannel) (value : Int)
  | full (c : IpcChannel)
  | received (c : IpcChannel) (value : Int)
  | empty (c : IpcChannel)
  deriving DecidableEq

/-- A value was stored or taken. -/
def ChannelEvent.Moves : ChannelEvent → Prop
  | .sent _ _ | .received _ _ => True
  | .full _ | .empty _ => False

instance (e : ChannelEvent) : Decidable e.Moves := by
  cases e
  case sent | received => exact inferInstanceAs (Decidable True)
  case full | empty => exact inferInstanceAs (Decidable False)

/-- What the next section of the current task does at a channel. -/
def Pc.channelEvent : Pc → Sched → Option ChannelEvent
  | .send c value _, s =>
    if (ipcSendSection c value s).2 then some (.sent c value) else some (.full c)
  | .recv c _, s =>
    match (ipcRecvSection c s).2 with
    | some value => some (.received c value)
    | none => some (.empty c)
  | _, _ => none

/-- What a send or a receive attempts: at which channel, which value to store, and how it goes on
when it fails. -/
structure Attempt where
  channel : IpcChannel
  value : Option Int
  retry : Retry
  deriving DecidableEq

/-- The attempt a task goes on to. -/
def Resume.attempt : Resume → Option Attempt
  | .send c value r => some ⟨c, some value, r⟩
  | .recv c r => some ⟨c, none, r⟩
  | .deadline _ next => next.attempt
  | .own | .halted => none

/-- The attempt of a send or a receive that has not come to its answer. -/
def Pc.attempt : Pc → Option Attempt
  | .send c value r => some ⟨c, some value, r⟩
  | .recv c r => some ⟨c, none, r⟩
  | .wait _ next | .waitTimeout _ _ next | .remaining _ _ _ next | .switch next
  | .deadline _ next => next.attempt
  | _ => none

/-- The answer of a send or a receive, when the next section settles it. -/
def Pc.answer : Pc → Sched → Option Bool
  | .send c value r, s =>
    if (ipcSendSection c value s).2 then some true else if r = .once then some false else none
  | .recv c r, s =>
    if (ipcRecvSection c s).2.isSome then some true else if r = .once then some false else none
  | .remaining _ start maxTicks next, s =>
    if next.attempt.isSome ∧ maxTicks ≤ s.schedulerTicks - start then some false else none
  | .deadline tick next, s =>
    if next.attempt.isSome ∧ tick ≤ s.schedulerTicks then some false else none
  | _, _ => none

/-- The attempt of a call made at the tick `start`. -/
def Call.attempt (start : UInt32) : Call → Option Attempt
  | .ipcSend channel value => (ipcChannel channel).map (⟨·, some value, .once⟩)
  | .ipcSendWait channel value => (ipcChannel channel).map (⟨·, some value, .wait⟩)
  | .ipcSendTimeout channel value maxTicks =>
    (ipcChannel channel).map (⟨·, some value, .timeout start maxTicks⟩)
  | .ipcRecv channel out => (ipcRecvChannel channel out).map (⟨·, none, .once⟩)
  | .ipcRecvWait channel out => (ipcRecvChannel channel out).map (⟨·, none, .wait⟩)
  | .ipcRecvTimeout channel out maxTicks =>
    (ipcRecvChannel channel out).map (⟨·, none, .timeout start maxTicks⟩)
  | _ => none

def Call.OnChannel : Call → Prop
  | .ipcSend _ _ | .ipcSendWait _ _ | .ipcSendTimeout _ _ _ | .ipcRecv _ _ | .ipcRecvWait _ _
  | .ipcRecvTimeout _ _ _ => True
  | _ => False

instance (c : Call) : Decidable c.OnChannel := by
  cases c
  case ipcSend | ipcSendWait | ipcSendTimeout | ipcRecv | ipcRecvWait | ipcRecvTimeout =>
    exact inferInstanceAs (Decidable True)
  all_goals exact inferInstanceAs (Decidable False)

/-- The section in which an attempt is made. -/
def Attempt.pc (a : Attempt) : Pc :=
  match a.value with
  | some value => .send a.channel value a.retry
  | none => .recv a.channel a.retry

/-- Only a send or a receive with a time limit goes on to a test of its time. -/
def Resume.Timed : Resume → Prop
  | .deadline _ next =>
    (∀ a, next.attempt = some a → ∃ start maxTicks, a.retry = .timeout start maxTicks) ∧ next.Timed
  | _ => True

def Pc.Timed : Pc → Prop
  | .remaining _ _ _ next | .waitTimeout _ _ next | .deadline _ next =>
    (∀ a, next.attempt = some a → ∃ start maxTicks, a.retry = .timeout start maxTicks) ∧ next.Timed
  | .wait _ next | .switch next => next.Timed
  | _ => True

section

variable {pc : Pc} {s : Sched} {a : Attempt}

lemma Resume.Timed.of_resume {r : Resume} (h : r.Timed) : r.pc.Timed := by
  cases r with
  | deadline tick next => exact h
  | _ => exact trivial

lemma Retry.next_timed {r : Retry} (q : WaitQueue) {again : Resume} (h : again.attempt = some a)
    (hr : a.retry = r) (htimed : again.Timed) :
    (r.next q again).Timed := by
  cases r with
  | once => exact trivial
  | wait => exact htimed
  | timeout start maxTicks =>
    refine ⟨fun b hb => ⟨start, maxTicks, ?_⟩, htimed⟩
    rw [h] at hb
    cases hb
    exact hr

lemma Pc.Timed.exec (h : pc.Timed) : (pc.exec s).2.Timed := by
  cases pc with
  | send c value r =>
    simp only [Pc.exec]
    split_ifs
    · exact trivial
    · exact Retry.next_timed _ rfl rfl trivial
  | recv c r =>
    simp only [Pc.exec]
    split_ifs
    · exact trivial
    · exact Retry.next_timed _ rfl rfl trivial
  | remaining q start m next =>
    simp only [Pc.exec]
    split_ifs
    · exact trivial
    · exact h
  | deadline tick next =>
    simp only [Pc.exec]
    split_ifs
    · exact trivial
    · exact h.2.of_resume
  | switch next => exact Resume.Timed.of_resume h
  | wait | waitTimeout => exact h
  | sleepTimeout n m => exact ⟨fun a ha => (by cases ha), trivial⟩
  | kill id code =>
    simp only [Pc.exec]
    split
    · exact trivial
    · split_ifs <;> exact trivial
  | eventTest e m =>
    simp only [Pc.exec]
    split_ifs
    · exact trivial
    · cases m with
      | none => exact trivial
      | some ticks => exact ⟨fun a ha => (by cases ha), trivial⟩
  | wakeAll q | signalWake e | broadcastWake e =>
    simp only [Pc.exec]
    split_ifs <;> exact trivial
  | _ => exact trivial

end

/-! ### Any interleaving -/

/-- A task makes a call, runs its next section or creates a task, or the timer interrupts. -/
inductive TaskMove where
  | call (t : TaskId) (c : Call)
  | go (t : TaskId)
  | tick
  | create (t index : TaskId) (parent : Int)

/-- The kernel, and for each task its last call, the answer of it once it is settled, and how many
values the call has moved. -/
structure ChannelRun where
  kernel : Kernel
  last : TaskId → Option Call
  answer : TaskId → Option Bool
  moved : TaskId → Nat

/-- What a move did at a channel, and the answer it settled. -/
structure ChannelReport where
  event : Option ChannelEvent
  answer : Option Bool

/-- A move that is not possible is none. -/
def ChannelRun.step (r : ChannelRun) : TaskMove → ChannelRun × ChannelReport
  | .call t c =>
    if r.kernel.CanGo t ∧ r.kernel.pc t = .own then
      let pc := c.enter r.kernel.sched.schedulerTicks
      let answer := if c.OnChannel ∧ pc = .own then some false else none
      ({ kernel := r.kernel.setPc t pc
         last := Function.update r.last t (some c)
         answer := Function.update r.answer t answer
         moved := Function.update r.moved t 0 }, ⟨none, answer⟩)
    else (r, ⟨none, none⟩)
  | .go t =>
    if h : r.kernel.CanGo t then
      let k := r.kernel.resume t h.1
      let event := k.currentPc.channelEvent k.sched
      let answer := k.currentPc.answer k.sched
      ({ r with
         kernel := k.advance
         answer := Function.update r.answer t (answer.or (r.answer t))
         moved := Function.update r.moved t
           (if ∃ e ∈ event, e.Moves then r.moved t + 1 else r.moved t) }, ⟨event, answer⟩)
    else (r, ⟨none, none⟩)
  | .tick =>
    ({ r with kernel := { r.kernel with sched := schedulerTimerTick r.kernel.sched } },
      ⟨none, none⟩)
  | .create t index parent =>
    if h : r.kernel.CanGo t then
      let k := r.kernel.resume t h.1
      if k.currentPc = .own ∧ k.SlotFree index then
        ({ kernel :=
            { sched := createTask index parent k.sched, pc := Function.update k.pc index .own }
           last := Function.update r.last index none
           answer := Function.update r.answer index none
           moved := Function.update r.moved index 0 }, ⟨none, none⟩)
      else (r, ⟨none, none⟩)
    else (r, ⟨none, none⟩)

/-- When the kernel starts. -/
def ChannelRun.boot : ChannelRun where
  kernel := Kernel.boot
  last _ := none
  answer _ := none
  moved _ := 0

namespace ChannelRun

variable {r : ChannelRun} {t : TaskId}

/-- The last call of the task is a send or a receive with this attempt. -/
def Attempts (r : ChannelRun) (t : TaskId) (a : Attempt) : Prop :=
  ∃ call start, r.last t = some call ∧ call.attempt start = some a

/-- A send or a receive of the task has moved one value if its answer is 1 and none if it is 0 or
still to come. -/
structure Settled (r : ChannelRun) (t : TaskId) : Prop where
  timed : (r.kernel.pc t).Timed
  pending : ∀ a, (r.kernel.pc t).attempt = some a → r.answer t = none ∧ r.Attempts t a
  settled : ∀ call, r.last t = some call → call.OnChannel → (r.kernel.pc t).attempt = none →
    r.answer t ≠ none
  moved_eq : r.moved t = if r.answer t = some true then 1 else 0

end ChannelRun

end NeuroSpark
