import NeuroSpark.Lib.RingBuffer
import NeuroSpark.Lib.Sizes
import Mathlib.Data.Fin.Basic

/-!
# The task table and the locked sections of the scheduler

The functions of scheduler.c and the part of task.c they rest on. Each section between
`irq_lock_acquire` and `irq_lock_release` is one function on the scheduler's state; what a task does
between its sections is the subject of `NeuroSpark.Sched.Kernel`.

Wait queues are reached through pointers in the source. Here they are named: the two of each IPC
channel, the one inside each event and any number of others.
-/

namespace NeuroSpark

open Function (update)

/-- `TASK_STATE_*`. -/
inductive TaskState where
  | ready
  | running
  | blocked
  | sleeping
  | terminated
  deriving DecidableEq, Repr

/-- `TASK_WAIT_*`. -/
inductive TaskWait where
  | none
  | child
  deriving DecidableEq, Repr

/-- A slot of `os_tasks`; `MAX_TASKS` is 8. -/
abbrev TaskId := Fin 8

/-- The scheduler's fields of a `TCB`. -/
structure Tcb where
  state : TaskState
  wakeTick : UInt32
  timeSlice : UInt32
  priority : UInt32
  parentPid : Int
  exitStatus : Int
  exited : Bool
  waitTarget : Int
  waitReason : TaskWait
  schedWaitTicks : UInt32
  schedWakeBoost : UInt32

/-- `IPC_CHANNELS` is 4. -/
abbrev IpcChannel := Fin 4

/-- The wait queues of the kernel. -/
inductive WaitQueue where
  | ipcSend (c : IpcChannel)
  | ipcRecv (c : IpcChannel)
  | event (e : Nat)
  | other (q : Nat)
  deriving DecidableEq, Repr

/-- What `scheduler_lock` protects. -/
structure Sched where
  osTasks : TaskId → Tcb
  osCurrentTask : TaskId
  osTaskCount : Nat
  schedulerTicks : UInt32
  ipcChannels : IpcChannel → RingBuffer Int 16
  waitQueues : WaitQueue → RingBuffer Int 8
  signaled : Nat → Bool
  count_le : osTaskCount ≤ 8
  current_lt : osCurrentTask.val < osTaskCount

namespace Sched

abbrev stateOf (s : Sched) (t : TaskId) : TaskState := (s.osTasks t).state

/-- The slot is one the scheduler looks at. -/
abbrev InTable (s : Sched) (t : TaskId) : Prop := t.val < s.osTaskCount

def setTask (s : Sched) (t : TaskId) (tcb : Tcb) : Sched :=
  { s with osTasks := Function.update s.osTasks t tcb }

def setQueue (s : Sched) (q : WaitQueue) (r : RingBuffer Int 8) : Sched :=
  { s with waitQueues := Function.update s.waitQueues q r }

def setChannel (s : Sched) (c : IpcChannel) (r : RingBuffer Int 16) : Sched :=
  { s with ipcChannels := Function.update s.ipcChannels c r }

/-- A task number that an `int` of the source may hold, if it is in the table. -/
def taskAt (s : Sched) (id : Int) : Option TaskId :=
  if h : 0 ≤ id ∧ id < s.osTaskCount then
    some ⟨id.toNat, by have := s.count_le; omega⟩
  else none

end Sched

/-- The base priority is at most `SCHED_PRIO_MAX`, and waiting and waking lift it. -/
def schedulerEffectivePriorityLocked (tcb : Tcb) : UInt32 :=
  min (min tcb.priority 7 + min (tcb.schedWaitTicks >>> 4) 3 + min tcb.schedWakeBoost 2) 12

def timeSliceForPriority (prio : UInt32) : UInt32 :=
  if prio = 0 then 3 else if prio ≥ 3 then 8 else 5 + prio

/-- The task sleeps or waits with a tick that has come. -/
def Tcb.Due (tcb : Tcb) (ticks : UInt32) : Prop :=
  (tcb.state = .sleeping ∨ tcb.state = .blocked) ∧ tcb.wakeTick ≠ 0 ∧ tcb.wakeTick ≤ ticks

instance (tcb : Tcb) (ticks : UInt32) : Decidable (tcb.Due ticks) :=
  inferInstanceAs (Decidable (_ ∧ _ ∧ _))

/-- What a wake-up stores in the entry of a task. -/
def Tcb.wake (tcb : Tcb) : Tcb := { tcb with state := .ready, wakeTick := 0, schedWakeBoost := 2 }

def schedulerWakeSleepersLocked (s : Sched) : Sched :=
  { s with
    osTasks := fun i =>
      if s.InTable i ∧ (s.osTasks i).Due s.schedulerTicks then (s.osTasks i).wake
      else s.osTasks i }

/-- The task `step` places after `old`, round the table. -/
def Sched.rotate (s : Sched) (old : TaskId) (step : Nat) : TaskId :=
  ⟨(old.val + step) % s.osTaskCount,
    (Nat.mod_lt _ (by have := s.current_lt; omega)).trans_le s.count_le⟩

/-- One round of the loop over the READY tasks: `best` is `best_idx`. -/
def schedulerBestStep (s : Sched) (best : Option TaskId) (idx : TaskId) : Option TaskId :=
  if s.stateOf idx = .ready then
    match best with
    | none => some idx
    | some b =>
      if schedulerEffectivePriorityLocked (s.osTasks b) <
          schedulerEffectivePriorityLocked (s.osTasks idx) then some idx
      else some b
  else best

/-- The slots in the order in which the loop of `scheduler_pick_next_locked` visits them. -/
def Sched.scanOrder (s : Sched) (old : TaskId) : List TaskId :=
  (List.range s.osTaskCount).map fun k => s.rotate old (k + 1)

/-- The task can be given the processor. -/
def TaskState.Runnable (st : TaskState) : Prop := st = .ready ∨ st = .running

instance (st : TaskState) : Decidable st.Runnable := inferInstanceAs (Decidable (_ ∨ _))

def schedulerPickNextLocked (s : Sched) (old : TaskId) : TaskId :=
  match (s.scanOrder old).foldl (schedulerBestStep s) none with
  | some best => best
  | none =>
    if s.stateOf old = .running ∨ s.stateOf old = .ready then old
    else
      match (List.finRange 8).find? fun i => s.InTable i ∧
          s.stateOf i ≠ .blocked ∧ s.stateOf i ≠ .sleeping ∧ s.stateOf i ≠ .terminated with
      | some i => i
      | none => old

/-- `force_current_ready` demotes the running task before the choice. -/
def Sched.demote (s : Sched) (force : Bool) : Sched :=
  if force ∧ s.stateOf s.osCurrentTask = .running then
    s.setTask s.osCurrentTask
      { s.osTasks s.osCurrentTask with state := .ready, schedWaitTicks := 0 }
  else s

/-- What the switch stores in the entry of the task it chose. -/
def Tcb.run (tcb : Tcb) : Tcb :=
  { tcb with
    state := .running
    timeSlice := timeSliceForPriority tcb.priority
    schedWaitTicks := 0
    schedWakeBoost := 0 }

/-- Give the processor to a task of the table. -/
def Sched.switchTo (s : Sched) (t : TaskId) (h : s.InTable t) : Sched :=
  { s with osTasks := Function.update s.osTasks t (s.osTasks t).run
           osCurrentTask := t
           current_lt := h }

lemma Sched.inTable_of_mem_scanOrder {s : Sched} {old t : TaskId} (h : t ∈ s.scanOrder old) :
    s.InTable t := by
  simp only [scanOrder, List.mem_map] at h
  obtain ⟨k, -, rfl⟩ := h
  exact Nat.mod_lt _ (by have := s.current_lt; omega)

lemma foldl_schedulerBestStep (s : Sched) (l : List TaskId) (best : Option TaskId) :
    match l.foldl (schedulerBestStep s) best with
    | some t => t ∈ l ∧ s.stateOf t = .ready ∨ best = some t
    | none => best = none ∧ ∀ t ∈ l, s.stateOf t ≠ .ready := by
  induction l generalizing best with
  | nil => cases best <;> simp
  | cons idx l ih =>
    rw [List.foldl_cons]
    have h := ih (schedulerBestStep s best idx)
    by_cases hidx : s.stateOf idx = .ready
    · have hstep : schedulerBestStep s best idx = some idx ∨
          schedulerBestStep s best idx = best ∧ best ≠ none := by
        cases best with
        | none => simp [schedulerBestStep, hidx]
        | some b =>
          simp only [schedulerBestStep, hidx, if_true]
          split <;> simp
      split at h
      · rcases h with ⟨hmem, hready⟩ | hbest
        · exact Or.inl ⟨List.mem_cons_of_mem _ hmem, hready⟩
        · rcases hstep with hnew | ⟨hsame, -⟩
          · rw [hnew, Option.some.injEq] at hbest
            exact Or.inl ⟨hbest ▸ List.mem_cons_self, hbest ▸ hidx⟩
          · exact Or.inr (hsame ▸ hbest)
      · rcases hstep with hnew | ⟨hsame, hne⟩
        · rw [hnew] at h
          exact absurd h.1 (by simp)
        · exact absurd (hsame ▸ h.1) hne
    · have hsame : schedulerBestStep s best idx = best := by simp [schedulerBestStep, hidx]
      rw [hsame] at h ⊢
      split at h
      · rcases h with ⟨hmem, hready⟩ | hbest
        · exact Or.inl ⟨List.mem_cons_of_mem _ hmem, hready⟩
        · exact Or.inr hbest
      · refine ⟨h.1, fun t ht => ?_⟩
        rcases List.mem_cons.1 ht with rfl | ht
        · exact hidx
        · exact h.2 t ht

lemma Sched.mem_scanOrder {s : Sched} {old t : TaskId} (hold : s.InTable old) (ht : s.InTable t) :
    t ∈ s.scanOrder old := by
  simp only [scanOrder, List.mem_map, List.mem_range]
  rcases Nat.lt_or_ge old.val t.val with hlt | hge
  · refine ⟨t.val - old.val - 1, by omega, Fin.ext ?_⟩
    have hsum : old.val + (t.val - old.val - 1 + 1) = t.val := by omega
    simp [rotate, hsum, Nat.mod_eq_of_lt ht]
  · refine ⟨t.val + s.osTaskCount - old.val - 1, by omega, Fin.ext ?_⟩
    have hsum : old.val + (t.val + s.osTaskCount - old.val - 1 + 1) = t.val + s.osTaskCount := by
      omega
    simp [rotate, hsum, Nat.mod_eq_of_lt ht]

lemma schedulerPickNextLocked_cases (s : Sched) {old : TaskId} (hold : s.InTable old) :
    (s.InTable (schedulerPickNextLocked s old) ∧
        s.stateOf (schedulerPickNextLocked s old) = .ready) ∨
      ((∀ t, s.InTable t → s.stateOf t ≠ .ready) ∧ s.stateOf old = .running ∧
        schedulerPickNextLocked s old = old) ∨
      ((∀ t, s.InTable t → s.stateOf t ≠ .ready) ∧ s.stateOf old ≠ .running ∧
        s.InTable (schedulerPickNextLocked s old) ∧
        s.stateOf (schedulerPickNextLocked s old) = .running) ∨
      ((∀ t, s.InTable t → ¬ (s.stateOf t).Runnable) ∧ schedulerPickNextLocked s old = old) := by
  have hbest := foldl_schedulerBestStep s (s.scanOrder old) none
  unfold schedulerPickNextLocked
  split at hbest
  · rename_i t _
    have hmem : t ∈ s.scanOrder old ∧ s.stateOf t = .ready := by simpa using hbest
    exact Or.inl ⟨Sched.inTable_of_mem_scanOrder hmem.1, hmem.2⟩
  · have hready : ∀ t, s.InTable t → s.stateOf t ≠ .ready :=
      fun t ht => hbest.2 t (Sched.mem_scanOrder hold ht)
    by_cases hrun : s.stateOf old = .running
    · rw [if_pos (Or.inl hrun)]
      exact Or.inr (Or.inl ⟨hready, hrun, rfl⟩)
    · rw [if_neg (by simp [hrun, hready old hold])]
      split
      · rename_i i hi
        have hstate := List.find?_some hi
        have hcases : s.stateOf i = .ready ∨ s.stateOf i = .running := by
          cases hst : s.stateOf i <;> simp_all
        rcases hcases with hr | hr
        · simp only [decide_eq_true_eq] at hstate
          exact absurd hr (hready i hstate.1)
        · simp only [decide_eq_true_eq] at hstate
          exact Or.inr (Or.inr (Or.inl ⟨hready, hrun, hstate.1, hr⟩))
      · rename_i hfind
        refine Or.inr (Or.inr (Or.inr ⟨fun t ht hrunnable => ?_, rfl⟩))
        have hno := List.find?_eq_none.1 hfind t (List.mem_finRange t)
        rcases hrunnable with hr | hr <;> simp [ht, hr] at hno

lemma schedulerPickNextLocked_inTable (s : Sched) {old : TaskId} (hold : s.InTable old) :
    s.InTable (schedulerPickNextLocked s old) := by
  rcases schedulerPickNextLocked_cases s hold with ⟨h, -⟩ | ⟨-, -, h⟩ | ⟨-, -, h, -⟩ | ⟨-, h⟩
  · exact h
  · exact h.symm ▸ hold
  · exact h
  · exact h.symm ▸ hold

@[simp] lemma Sched.demote_current (s : Sched) (force : Bool) :
    (s.demote force).osCurrentTask = s.osCurrentTask := by
  unfold demote
  split <;> rfl

def schedulerSelectAndSwitch (force : Bool) (s : Sched) : Sched :=
  let woken := schedulerWakeSleepersLocked (s.demote force)
  woken.switchTo (schedulerPickNextLocked woken woken.osCurrentTask)
    (schedulerPickNextLocked_inTable woken woken.current_lt)

/-- The locked section of `task_sleep`. -/
def taskSleepSection (ticks : UInt32) (s : Sched) : Sched :=
  s.setTask s.osCurrentTask
    { s.osTasks s.osCurrentTask with state := .sleeping, wakeTick := s.schedulerTicks + ticks }

/-- The first locked section of `task_sleep_timeout`. -/
def taskSleepTimeoutSection (ticks maxTicks : UInt32) (s : Sched) : Sched :=
  s.setTask s.osCurrentTask
    { s.osTasks s.osCurrentTask with
      state := .sleeping
      wakeTick := min (s.schedulerTicks + ticks) (s.schedulerTicks + maxTicks) }

/-- A parent that waits for this child, or for any, becomes READY. -/
def wakeParent (child : TaskId) (s : Sched) : Sched :=
  match s.taskAt (s.osTasks child).parentPid with
  | none => s
  | some parent =>
    let tcb := s.osTasks parent
    if tcb.state = .blocked ∧ tcb.waitReason = .child ∧
        (tcb.waitTarget < 0 ∨ tcb.waitTarget = child.val) then
      s.setTask parent
        { tcb with state := .ready, wakeTick := 0, waitReason := .none, waitTarget := -1 }
    else s

/-- What leaving stores in the entry of a task. -/
def Tcb.terminate (tcb : Tcb) (code : Int) : Tcb :=
  { tcb with state := .terminated, wakeTick := 0, exitStatus := code, exited := true }

/-- The locked section of `task_exit_with_code`. -/
def taskExitSection (code : Int) (s : Sched) : Sched :=
  wakeParent s.osCurrentTask
    (s.setTask s.osCurrentTask ((s.osTasks s.osCurrentTask).terminate code))

/-- The locked section of `task_kill` for a task that is not the current one. -/
def taskKillSection (t : TaskId) (code : Int) (s : Sched) : Sched :=
  if s.stateOf t = .terminated then s
  else wakeParent t (s.setTask t ((s.osTasks t).terminate code))

/-- Another READY task is worth more than the current one. -/
def Sched.InversionHint (s : Sched) : Prop :=
  ∃ i, s.InTable i ∧ i ≠ s.osCurrentTask ∧ s.stateOf i = .ready ∧
    schedulerEffectivePriorityLocked (s.osTasks s.osCurrentTask) <
      schedulerEffectivePriorityLocked (s.osTasks i)

instance (s : Sched) : Decidable s.InversionHint := inferInstanceAs (Decidable (∃ _, _))

/-- READY tasks that are not current have waited one tick more. -/
def Sched.countWaiting (s : Sched) : Sched :=
  { s with
    osTasks := fun i =>
      let tcb := s.osTasks i
      if s.InTable i ∧ i ≠ s.osCurrentTask ∧ tcb.state = .ready ∧
          tcb.schedWaitTicks < 0xFFFFFFFF then
        { tcb with schedWaitTicks := tcb.schedWaitTicks + 1 }
      else tcb }

/-- The slice of the running task after one tick: a spent slice is given anew, and a better task
cuts it to one. -/
def Sched.sliceAfterTick (s : Sched) : UInt32 :=
  let tcb := s.osTasks s.osCurrentTask
  let left := if 0 < tcb.timeSlice then tcb.timeSlice - 1 else tcb.timeSlice
  if left = 0 then timeSliceForPriority tcb.priority
  else if s.InversionHint ∧ 1 < left then 1
  else left

/-- Both locked sections: the timer interrupt keeps interrupts off between them. -/
def schedulerTimerTick (s : Sched) : Sched :=
  let s := schedulerWakeSleepersLocked { s with schedulerTicks := s.schedulerTicks + 1 }
  let s := s.countWaiting
  if s.stateOf s.osCurrentTask = .running then
    s.setTask s.osCurrentTask
      { s.osTasks s.osCurrentTask with timeSlice := s.sliceAfterTick }
  else s

/-- The section of `wait_queue_wait`: a full queue takes nobody in. -/
def waitQueueWaitSection (q : WaitQueue) (s : Sched) : Sched :=
  if h : (s.waitQueues q).count < 8 then
    (s.setQueue q ((s.waitQueues q).push s.osCurrentTask.val h)).setTask s.osCurrentTask
      { s.osTasks s.osCurrentTask with state := .blocked }
  else s

/-- The first section of `wait_queue_wait_timeout`. -/
def waitQueueWaitTimeoutSection (q : WaitQueue) (maxTicks : UInt32) (s : Sched) : Sched :=
  if h : (s.waitQueues q).count < 8 then
    (s.setQueue q ((s.waitQueues q).push s.osCurrentTask.val h)).setTask s.osCurrentTask
      { s.osTasks s.osCurrentTask with
        state := .blocked
        wakeTick := s.schedulerTicks + maxTicks }
  else s

/-- The task with this number, if it is in the table and BLOCKED. -/
def Sched.blockedAt (s : Sched) (id : Int) : Option TaskId :=
  (s.taskAt id).filter fun t => s.stateOf t = .blocked

/-- The loop of `wait_queue_wake_one`, which runs at most once for each entry. -/
def waitQueueWakeLoop (q : WaitQueue) : Nat → Sched → Sched × Bool
  | 0, s => (s, false)
  | fuel + 1, s =>
    if h : 0 < (s.waitQueues q).count then
      let id := (s.waitQueues q).slots (s.waitQueues q).head
      let s := s.setQueue q ((s.waitQueues q).pop (-1) h)
      match s.blockedAt id with
      | some t => (s.setTask t (s.osTasks t).wake, true)
      | none => waitQueueWakeLoop q fuel s
    else (s, false)

def waitQueueWakeOne (q : WaitQueue) (s : Sched) : Sched × Bool :=
  waitQueueWakeLoop q (s.waitQueues q).count s

/-- The section of `sched_event_wait`: was the event signaled? It no longer is. -/
def schedEventTestSection (e : Nat) (s : Sched) : Sched × Bool :=
  if s.signaled e then ({ s with signaled := Function.update s.signaled e false }, true)
  else (s, false)

/-- The last section of `sched_event_signal` and of `sched_event_broadcast`. -/
def schedEventSetSection (e : Nat) (s : Sched) : Sched :=
  { s with signaled := Function.update s.signaled e true }

/-- The section of `ipc_send`: was there room for the value? -/
def ipcSendSection (c : IpcChannel) (value : Int) (s : Sched) : Sched × Bool :=
  if h : (s.ipcChannels c).count < 16 then
    (s.setChannel c ((s.ipcChannels c).push value h), true)
  else (s, false)

/-- The section of `ipc_recv`: the oldest value, if there is one. Its slot keeps it. -/
def ipcRecvSection (c : IpcChannel) (s : Sched) : Sched × Option Int :=
  if h : 0 < (s.ipcChannels c).count then
    let value := (s.ipcChannels c).slots (s.ipcChannels c).head
    (s.setChannel c ((s.ipcChannels c).pop value h), some value)
  else (s, none)

/-- The entry `create_task` fills in; `parent_pid` is set by the caller. -/
def createTaskTcb (parent : Int) : Tcb where
  state := .ready
  wakeTick := 0
  timeSlice := 5
  priority := 1
  parentPid := parent
  exitStatus := 0
  exited := false
  waitTarget := -1
  waitReason := .none
  schedWaitTicks := 0
  schedWakeBoost := 0

def createTask (index : TaskId) (parent : Int) (s : Sched) : Sched :=
  { s with
    osTasks := Function.update s.osTasks index (createTaskTcb parent)
    osTaskCount := max s.osTaskCount (index.val + 1)
    count_le := max_le s.count_le index.isLt
    current_lt := lt_of_lt_of_le s.current_lt (le_max_left _ _) }

/-- The static contents of `os_tasks`. The initialisers of slots 0 to 2 have more fields than they
name, so `parent_pid` and `wait_target` are zero there too. -/
def bootTcb (i : TaskId) : Tcb where
  state := if i = 0 then .running else if i.val ≤ 2 then .terminated else .ready
  wakeTick := 0
  timeSlice := if i.val ≤ 2 then 5 else 0
  priority := if i.val ≤ 2 then 1 else 0
  parentPid := 0
  exitStatus := 0
  exited := false
  waitTarget := 0
  waitReason := .none
  schedWaitTicks := 0
  schedWakeBoost := 0

/-- The scheduler when the kernel starts, with the channels, queues and events initialised. -/
def Sched.boot : Sched where
  osTasks := bootTcb
  osCurrentTask := 0
  osTaskCount := 1
  schedulerTicks := 0
  ipcChannels _ := RingBuffer.empty 0 Sizes.sixteen_pos
  waitQueues _ := RingBuffer.empty (-1) (by decide)
  signaled _ := false
  count_le := by decide
  current_lt := by decide

end NeuroSpark
