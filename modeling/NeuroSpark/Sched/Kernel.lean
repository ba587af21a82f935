import NeuroSpark.Sched.Model
import NeuroSpark.Lib.Machine

/-!
# Tasks between their locked sections

A task is at a program point: it executes its own code, or it is inside one of the primitives of
scheduler.c and its next locked section is known. `Pc.exec` runs that section. The kernel of this
file has one processor and does not preempt: only `os_current_task` goes on, and the timer interrupt
may come between any two sections.
-/

namespace NeuroSpark

/-- How a send or a receive goes on when the channel is full or empty: `ipc_send`, `ipc_send_wait`
or `ipc_send_timeout`, and the same for receiving. -/
inductive Retry where
  | once
  | wait
  | timeout (start maxTicks : UInt32)
  deriving DecidableEq, Repr

/-- Where a task goes on when it has the processor back after a wait. -/
inductive Resume where
  | own
  /-- The `hlt` loop at the end of `task_exit_with_code`. -/
  | halted
  /-- The test for a time-out. -/
  | deadline (tick : UInt32) (next : Resume)
  | send (c : IpcChannel) (value : Int) (r : Retry)
  | recv (c : IpcChannel) (r : Retry)
  deriving DecidableEq, Repr

/-- The section a task is about to run. -/
inductive Pc where
  | own
  | halted
  | yield
  | sleep (ticks : UInt32)
  | sleepTimeout (ticks maxTicks : UInt32)
  | exit (code : Int)
  | kill (id : Int) (code : Int)
  /-- `wait_queue_wait`. -/
  | wait (q : WaitQueue) (next : Resume)
  | waitTimeout (q : WaitQueue) (maxTicks : UInt32) (next : Resume)
  /-- The time left in `ipc_send_timeout` and `ipc_recv_timeout`. -/
  | remaining (q : WaitQueue) (start maxTicks : UInt32) (next : Resume)
  /-- `scheduler_select_and_switch(0)`. -/
  | switch (next : Resume)
  | deadline (tick : UInt32) (next : Resume)
  | wake (q : WaitQueue)
  | wakeAll (q : WaitQueue)
  | eventTest (e : Nat) (maxTicks : Option UInt32)
  | signalWake (e : Nat)
  | broadcastWake (e : Nat)
  | signalSet (e : Nat)
  | send (c : IpcChannel) (value : Int) (r : Retry)
  | recv (c : IpcChannel) (r : Retry)
  deriving DecidableEq, Repr

/-- The point of a task that has the processor back. -/
def Resume.pc : Resume → Pc
  | .own => .own
  | .halted => .halted
  | .deadline tick next => .deadline tick next
  | .send c value r => .send c value r
  | .recv c r => .recv c r

/-- Where a failed `ipc_send` or `ipc_recv` leads: out, to the wait queue, or to the clock. -/
def Retry.next (r : Retry) (q : WaitQueue) (again : Resume) : Pc :=
  match r with
  | .once => .own
  | .wait => .wait q again
  | .timeout start maxTicks => .remaining q start maxTicks again

/-- The next section of `os_current_task`, and the point it is at afterwards. -/
def Pc.exec : Pc → Sched → Sched × Pc
  | .own, s => (s, .own)
  | .halted, s => (s, .halted)
  | .yield, s => (schedulerSelectAndSwitch true s, .own)
  | .sleep ticks, s => (taskSleepSection ticks s, .switch .own)
  | .sleepTimeout ticks maxTicks, s =>
    (taskSleepTimeoutSection ticks maxTicks s,
      .switch (.deadline (s.schedulerTicks + maxTicks) .own))
  | .exit code, s => (taskExitSection code s, .switch .halted)
  | .kill id code, s =>
    match s.taskAt id with
    | none => (s, .own)
    | some t =>
      -- a task that kills itself leaves by `task_exit_with_code`
      if t = s.osCurrentTask then (s, .exit code) else (taskKillSection t code s, .own)
  | .wait q next, s => (waitQueueWaitSection q s, .switch next)
  | .waitTimeout q maxTicks next, s =>
    (waitQueueWaitTimeoutSection q maxTicks s,
      .switch (.deadline (s.schedulerTicks + maxTicks) next))
  | .remaining q start maxTicks next, s =>
    if maxTicks ≤ s.schedulerTicks - start then (s, .own)
    else (s, .waitTimeout q (maxTicks - (s.schedulerTicks - start)) next)
  | .switch next, s => (schedulerSelectAndSwitch false s, next.pc)
  | .deadline tick next, s => (s, if tick ≤ s.schedulerTicks then .own else next.pc)
  | .wake q, s => ((waitQueueWakeOne q s).1, .own)
  | .wakeAll q, s =>
    ((waitQueueWakeOne q s).1, if (waitQueueWakeOne q s).2 then .wakeAll q else .own)
  | .eventTest e maxTicks, s =>
    ((schedEventTestSection e s).1,
      if (schedEventTestSection e s).2 then .own
      else
        match maxTicks with
        | none => .wait (.event e) .own
        | some ticks => .waitTimeout (.event e) ticks .own)
  | .signalWake e, s =>
    ((waitQueueWakeOne (.event e) s).1,
      if (waitQueueWakeOne (.event e) s).2 then .own else .signalSet e)
  | .broadcastWake e, s =>
    ((waitQueueWakeOne (.event e) s).1,
      if (waitQueueWakeOne (.event e) s).2 then .broadcastWake e else .signalSet e)
  | .signalSet e, s => (schedEventSetSection e s, .own)
  | .send c value r, s =>
    ((ipcSendSection c value s).1,
      if (ipcSendSection c value s).2 then .wake (.ipcRecv c)
      else r.next (.ipcSend c) (.send c value r))
  | .recv c r, s =>
    ((ipcRecvSection c s).1,
      if (ipcRecvSection c s).2.isSome then .wake (.ipcSend c)
      else r.next (.ipcRecv c) (.recv c r))

/-- The calls a task makes from its own code. -/
inductive Call where
  | taskYield
  | taskSleep (ticks : UInt32)
  | taskSleepTimeout (ticks maxTicks : UInt32)
  | taskExitWithCode (code : Int)
  | taskKill (id : Int) (code : Int)
  | waitQueueWait (q : WaitQueue)
  | waitQueueWaitTimeout (q : WaitQueue) (maxTicks : UInt32)
  | waitQueueWakeOne (q : WaitQueue)
  | waitQueueWakeAll (q : WaitQueue)
  | schedEventWait (e : Nat)
  | schedEventWaitTimeout (e : Nat) (maxTicks : UInt32)
  | schedEventSignal (e : Nat)
  | schedEventBroadcast (e : Nat)
  | ipcSend (channel : Int) (value : Int)
  | ipcSendWait (channel : Int) (value : Int)
  | ipcSendTimeout (channel : Int) (value : Int) (maxTicks : UInt32)
  /-- Whether `out_value` is a pointer and not null. -/
  | ipcRecv (channel : Int) (outValue : Bool)
  | ipcRecvWait (channel : Int) (outValue : Bool)
  | ipcRecvTimeout (channel : Int) (outValue : Bool) (maxTicks : UInt32)

lemma channel_lt {channel : Int} (h : 0 ≤ channel ∧ channel < 4) : channel.toNat < 4 := by omega

/-- The check `channel < 0 || channel >= IPC_CHANNELS`. -/
def ipcChannel (channel : Int) : Option IpcChannel :=
  if h : 0 ≤ channel ∧ channel < 4 then some ⟨channel.toNat, channel_lt h⟩ else none

/-- The check of a receive: `|| out_value == 0` on top of that of a send. -/
def ipcRecvChannel (channel : Int) (outValue : Bool) : Option IpcChannel :=
  if outValue then ipcChannel channel else none

/-- What a call does before its first locked section. -/
def Call.enter (ticks : UInt32) : Call → Pc
  | .taskYield => .yield
  | .taskSleep n => if n = 0 then .yield else .sleep n
  | .taskSleepTimeout n maxTicks =>
    if n = 0 then .yield else if maxTicks = 0 then .own else .sleepTimeout n maxTicks
  | .taskExitWithCode code => .exit code
  | .taskKill id code => .kill id code
  | .waitQueueWait q => .wait q .own
  | .waitQueueWaitTimeout q maxTicks =>
    if maxTicks = 0 then .own else .waitTimeout q maxTicks .own
  | .waitQueueWakeOne q => .wake q
  | .waitQueueWakeAll q => .wakeAll q
  | .schedEventWait e => .eventTest e none
  | .schedEventWaitTimeout e maxTicks =>
    if maxTicks = 0 then .own else .eventTest e (some maxTicks)
  | .schedEventSignal e => .signalWake e
  | .schedEventBroadcast e => .broadcastWake e
  | .ipcSend channel value => (ipcChannel channel).elim .own fun c => .send c value .once
  | .ipcSendWait channel value => (ipcChannel channel).elim .own fun c => .send c value .wait
  | .ipcSendTimeout channel value maxTicks =>
    if maxTicks = 0 then .own
    else (ipcChannel channel).elim .own fun c => .send c value (.timeout ticks maxTicks)
  | .ipcRecv channel out => (ipcRecvChannel channel out).elim .own fun c => .recv c .once
  | .ipcRecvWait channel out => (ipcRecvChannel channel out).elim .own fun c => .recv c .wait
  | .ipcRecvTimeout channel out maxTicks =>
    if maxTicks = 0 then .own
    else (ipcRecvChannel channel out).elim .own fun c => .recv c (.timeout ticks maxTicks)

/-- The scheduler's state and the point every task is at. -/
structure Kernel where
  sched : Sched
  pc : TaskId → Pc

namespace Kernel

/-- The task that has the processor. -/
abbrev current (k : Kernel) : TaskId := k.sched.osCurrentTask

/-- The point at which the current task is. -/
abbrev currentPc (k : Kernel) : Pc := k.pc k.current

def setPc (k : Kernel) (t : TaskId) (pc : Pc) : Kernel :=
  { k with pc := Function.update k.pc t pc }

/-- The current task runs its next section. -/
def advance (k : Kernel) : Kernel :=
  { sched := (k.currentPc.exec k.sched).1
    pc := Function.update k.pc k.current (k.currentPc.exec k.sched).2 }

/-- A slot that `task_alloc_slot` or the boot code may give to a new task. -/
def SlotFree (k : Kernel) (i : TaskId) : Prop :=
  i ≠ k.current ∧ (k.sched.stateOf i = .terminated ∨ i.val = k.sched.osTaskCount)

instance (k : Kernel) (i : TaskId) : Decidable (k.SlotFree i) :=
  inferInstanceAs (Decidable (_ ∧ _))

end Kernel

/-- One step of the kernel. -/
inductive Move where
  /-- The current task, in its own code, calls a primitive. -/
  | call (c : Call)
  /-- The current task runs the next section of the primitive it is in. -/
  | go
  /-- The timer interrupt. -/
  | tick
  /-- The current task, in its own code, creates a task in a free slot. -/
  | create (index : TaskId) (parent : Int)

def Kernel.step (k : Kernel) : Move → Kernel × Unit
  | .call c =>
    if k.currentPc = .own then (k.setPc k.current (c.enter k.sched.schedulerTicks), ()) else (k, ())
  | .go => (k.advance, ())
  | .tick => ({ k with sched := schedulerTimerTick k.sched }, ())
  | .create index parent =>
    if k.currentPc = .own ∧ k.SlotFree index then
      ({ sched := createTask index parent k.sched, pc := Function.update k.pc index .own }, ())
    else (k, ())

/-- Task 0 in its own code. -/
def Kernel.boot : Kernel where
  sched := Sched.boot
  pc _ := .own

end NeuroSpark
