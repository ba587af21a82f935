import NeuroSpark.Sched.Kernel

/-!
# What the sections do to the task table

For every locked section, which tasks change their state and why. The results are collected in
`Pc.exec_cases`: away from the switch a section leaves a task as it is, stops it, or releases it.
-/

namespace NeuroSpark

namespace Sched

variable {s : Sched} {t u : TaskId} {q : WaitQueue}

@[simp] lemma setTask_osTaskCount (tcb : Tcb) : (s.setTask t tcb).osTaskCount = s.osTaskCount := rfl

@[simp] lemma setTask_same (tcb : Tcb) : (s.setTask t tcb).osTasks t = tcb :=
  Function.update_self ..

@[simp] lemma setTask_of_ne (tcb : Tcb) (h : u ≠ t) : (s.setTask t tcb).osTasks u = s.osTasks u :=
  Function.update_of_ne h ..

@[simp] lemma setTask_waitQueues (tcb : Tcb) : (s.setTask t tcb).waitQueues = s.waitQueues := rfl

@[simp] lemma setTask_ipcChannels (tcb : Tcb) : (s.setTask t tcb).ipcChannels = s.ipcChannels := rfl

@[simp] lemma setTask_signaled (tcb : Tcb) : (s.setTask t tcb).signaled = s.signaled := rfl

@[simp] lemma setQueue_osTasks (r : RingBuffer Int 8) : (s.setQueue q r).osTasks = s.osTasks := rfl

@[simp] lemma setQueue_same (r : RingBuffer Int 8) : (s.setQueue q r).waitQueues q = r :=
  Function.update_self ..

@[simp] lemma setQueue_setQueue (r r' : RingBuffer Int 8) :
    (s.setQueue q r).setQueue q r' = s.setQueue q r' := by
  simp [setQueue]

@[simp] lemma setQueue_blockedAt (r : RingBuffer Int 8) (id : Int) :
    (s.setQueue q r).blockedAt id = s.blockedAt id := rfl

lemma taskAt_eq_some {id : Int} : s.taskAt id = some t ↔ id = t.val ∧ s.InTable t := by
  unfold taskAt
  split_ifs with h
  · rw [Option.some.injEq, Fin.ext_iff]
    constructor
    · intro ht
      have hv : t.val = id.toNat := ht.symm
      exact ⟨by omega, by have := h.2; change t.val < s.osTaskCount; omega⟩
    · rintro ⟨rfl, -⟩
      rfl
  · constructor
    · intro hno
      cases hno
    · rintro ⟨rfl, ht⟩
      exact absurd ⟨by omega, by exact_mod_cast ht⟩ h

lemma blockedAt_eq_some {id : Int} :
    s.blockedAt id = some t ↔ id = t.val ∧ s.InTable t ∧ s.stateOf t = .blocked := by
  simp [blockedAt, Option.filter_eq_some_iff, taskAt_eq_some, and_assoc]

end Sched

lemma waitQueueWakeLoop_cases (q : WaitQueue) (fuel : Nat) (s : Sched)
    (hfuel : (s.waitQueues q).count = fuel) :
    (∃ r, waitQueueWakeLoop q fuel s = (s.setQueue q r, false) ∧ r.toList = [] ∧
        ∀ id ∈ (s.waitQueues q).toList, s.blockedAt id = none) ∨
      ∃ r t dropped, waitQueueWakeLoop q fuel s =
          ((s.setQueue q r).setTask t (s.osTasks t).wake, true) ∧
        (s.waitQueues q).toList = dropped ++ (t.val : Int) :: r.toList ∧
        (∀ id ∈ dropped, s.blockedAt id = none) ∧ s.InTable t ∧ s.stateOf t = .blocked := by
  induction fuel generalizing s with
  | zero =>
    refine Or.inl ⟨s.waitQueues q, ?_, ?_, ?_⟩
    · simp [waitQueueWakeLoop, Sched.setQueue]
    · exact (RingBuffer.toList_eq_nil_iff _).2 hfuel
    · simp [(RingBuffer.toList_eq_nil_iff _).2 hfuel]
  | succ fuel ih =>
    have hpos : 0 < (s.waitQueues q).count := by omega
    have hlist := (s.waitQueues q).toList_pop (-1) hpos
    simp only [waitQueueWakeLoop, hpos, dif_pos]
    generalize hid : (s.waitQueues q).slots (s.waitQueues q).head = id at hlist ⊢
    generalize hr : (s.waitQueues q).pop (-1) hpos = r at hlist ⊢
    have hcount : r.count = fuel := by rw [← hr, RingBuffer.pop_count]; omega
    cases hb : s.blockedAt id with
    | some t =>
      obtain ⟨rfl, ht, hst⟩ := Sched.blockedAt_eq_some.1 hb
      simp only [Sched.setQueue_blockedAt, hb]
      exact Or.inr ⟨r, t, [], rfl, hlist, by simp, ht, hst⟩
    | none =>
      simp only [Sched.setQueue_blockedAt, hb]
      rcases ih (s.setQueue q r) (by simpa using hcount) with
        ⟨r', hrun, hnil, hnone⟩ | ⟨r', t, dropped, hrun, hrest, hdrop, ht, hst⟩
      · refine Or.inl ⟨r', by simpa using hrun, hnil, ?_⟩
        simp only [Sched.setQueue_same] at hnone
        rw [hlist]
        intro id' hid'
        rcases List.mem_cons.1 hid' with rfl | hid'
        · exact hb
        · exact hnone id' hid'
      · refine Or.inr ⟨r', t, id :: dropped, by simpa using hrun, ?_, ?_, ht, hst⟩
        · simp only [Sched.setQueue_same] at hrest
          rw [hlist, hrest, List.cons_append]
        · intro id' hid'
          rcases List.mem_cons.1 hid' with rfl | hid'
          · exact hb
          · exact hdrop id' hid'

/-- `wait_queue_wake_one` wakes the first BLOCKED task of the queue, if there is one. -/
theorem waitQueueWakeOne_cases (q : WaitQueue) (s : Sched) :
    (∃ r, waitQueueWakeOne q s = (s.setQueue q r, false) ∧ r.toList = [] ∧
        ∀ id ∈ (s.waitQueues q).toList, s.blockedAt id = none) ∨
      ∃ r t dropped, waitQueueWakeOne q s =
          ((s.setQueue q r).setTask t (s.osTasks t).wake, true) ∧
        (s.waitQueues q).toList = dropped ++ (t.val : Int) :: r.toList ∧
        (∀ id ∈ dropped, s.blockedAt id = none) ∧ s.InTable t ∧ s.stateOf t = .blocked :=
  waitQueueWakeLoop_cases q _ s rfl

/-- The task is BLOCKED and has an entry in the queue. -/
def Sched.WaitsIn (s : Sched) (q : WaitQueue) (t : TaskId) : Prop :=
  s.stateOf t = .blocked ∧ (t.val : Int) ∈ (s.waitQueues q).toList

/-- The task is BLOCKED until this child of it, or any, has left. -/
def Sched.AwaitsChild (s : Sched) (t child : TaskId) : Prop :=
  s.stateOf t = .blocked ∧ (s.osTasks t).waitReason = .child ∧
    (s.osTasks child).parentPid = t.val ∧
    ((s.osTasks t).waitTarget < 0 ∨ (s.osTasks t).waitTarget = child.val)

/-- The section makes the task READY for a reason: its tick has come, it is woken from a queue, or
its child leaves. -/
def Pc.Releases (s : Sched) (t : TaskId) : Pc → Prop
  | .yield | .switch _ => (s.osTasks t).Due s.schedulerTicks
  | .wake q | .wakeAll q => s.WaitsIn q t
  | .signalWake e | .broadcastWake e => s.WaitsIn (.event e) t
  | .exit _ => s.AwaitsChild t s.osCurrentTask
  | .kill id _ => ∃ child, s.taskAt id = some child ∧ s.AwaitsChild t child
  | _ => False

lemma wakeParent_cases (child : TaskId) (s : Sched) :
    wakeParent child s = s ∨
      ∃ t, s.AwaitsChild t child ∧ wakeParent child s = s.setTask t
        { s.osTasks t with
          state := .ready, wakeTick := 0, waitReason := .none, waitTarget := -1 } := by
  unfold wakeParent
  cases hp : s.taskAt (s.osTasks child).parentPid with
  | none => exact Or.inl rfl
  | some t =>
    dsimp only
    split_ifs with h
    · exact Or.inr ⟨t, ⟨h.1, h.2.1, (Sched.taskAt_eq_some.1 hp).1, h.2.2⟩, rfl⟩
    · exact Or.inl rfl

/-- What a section may do to the entry of one task, other than give it the processor. -/
inductive Pc.Change (pc : Pc) (s : Sched) (t : TaskId) (tcb : Tcb) : Prop
  | same (h : tcb = s.osTasks t)
  /-- The current task stops; the switch is its next section. -/
  | stopped (h : ¬ tcb.state.Runnable) (ht : t = s.osCurrentTask)
      (hpc : ∃ r, (pc.exec s).2 = .switch r)
  | killed (h : tcb.state = .terminated) (ht : t ≠ s.osCurrentTask)
  | released (h : tcb.state = .ready) (hst : s.stateOf t = .blocked) (hr : pc.Releases s t)

lemma waitQueueWakeOne_change (pc : Pc) (s : Sched) (q : WaitQueue)
    (hpc : ∀ t, s.WaitsIn q t → pc.Releases s t) (t : TaskId) :
    pc.Change s t ((waitQueueWakeOne q s).1.osTasks t) := by
  rcases waitQueueWakeOne_cases q s with ⟨r, hrun, -, -⟩ | ⟨r, u, dropped, hrun, hlist, -, -, hst⟩
  · rw [hrun]
    exact .same rfl
  · rw [hrun]
    by_cases htu : t = u
    · subst htu
      exact .released (by simp [Tcb.wake]) hst (hpc t ⟨hst, by simp [hlist]⟩)
    · exact .same (by simp [htu])

lemma wakeParent_terminate_change (pc : Pc) (s : Sched) {child : TaskId} (code : Int)
    (hself : pc.Change s child ((s.osTasks child).terminate code))
    (hpc : ∀ t, s.AwaitsChild t child → pc.Releases s t) (t : TaskId) :
    pc.Change s t ((wakeParent child
      (s.setTask child ((s.osTasks child).terminate code))).osTasks t) := by
  rcases wakeParent_cases child (s.setTask child ((s.osTasks child).terminate code)) with
    heq | ⟨p, hp, heq⟩
  · rw [heq]
    by_cases ht : t = child
    · subst ht
      simpa using hself
    · exact .same (by simp [ht])
  · have hpne : p ≠ child := by
      rintro rfl
      simpa [Sched.stateOf, Tcb.terminate] using hp.1
    rw [heq]
    by_cases htp : t = p
    · subst htp
      have hawaits : s.AwaitsChild t child := by
        simpa [Sched.AwaitsChild, Sched.stateOf, hpne, Tcb.terminate] using hp
      exact .released (by simp) hawaits.1 (hpc t hawaits)
    · by_cases ht : t = child
      · subst ht
        simpa [htp] using hself
      · exact .same (by simp [htp, ht])

lemma setTask_current_change (pc : Pc) {s s₀ : Sched} (h₀ : s₀.osTasks = s.osTasks) {tcb : Tcb}
    (hstop : ¬ tcb.state.Runnable) (hpc : ∃ r, (pc.exec s).2 = .switch r) (t : TaskId) :
    pc.Change s t ((s₀.setTask s.osCurrentTask tcb).osTasks t) := by
  by_cases ht : t = s.osCurrentTask
  · subst ht
    exact .stopped (by simpa using hstop) rfl hpc
  · exact .same (by simp [ht, h₀])

lemma not_runnable_sleeping : ¬ TaskState.sleeping.Runnable := by simp [TaskState.Runnable]

lemma not_runnable_blocked : ¬ TaskState.blocked.Runnable := by simp [TaskState.Runnable]

lemma not_runnable_terminated : ¬ TaskState.terminated.Runnable := by simp [TaskState.Runnable]

/-- Away from the switch, each task is left, stopped, killed or released. -/
theorem Pc.exec_change {pc : Pc} (hyield : pc ≠ .yield) (hswitch : ∀ r, pc ≠ .switch r)
    (s : Sched) (t : TaskId) : pc.Change s t ((pc.exec s).1.osTasks t) := by
  cases pc with
  | yield => exact absurd rfl hyield
  | switch r => exact absurd rfl (hswitch r)
  | sleep | sleepTimeout => exact setTask_current_change _ rfl not_runnable_sleeping ⟨_, rfl⟩ t
  | exit code =>
    exact wakeParent_terminate_change (.exit code) s code
      (.stopped not_runnable_terminated rfl ⟨_, rfl⟩) (fun t ht => ht) t
  | kill id code =>
    cases hid : s.taskAt id with
    | none => exact .same (by simp [exec, hid])
    | some child =>
      by_cases hself : child = s.osCurrentTask
      · exact .same (by simp [exec, hid, hself])
      · simp only [exec, hid, if_neg hself, taskKillSection]
        split_ifs with hterm
        · exact .same rfl
        · exact wakeParent_terminate_change (.kill id code) s code (.killed rfl hself)
            (fun t ht => ⟨child, hid, ht⟩) t
  | wait q r =>
    by_cases h : (s.waitQueues q).count < 8
    · simp only [exec, waitQueueWaitSection, h, dif_pos]
      exact setTask_current_change (.wait q r) rfl not_runnable_blocked ⟨_, rfl⟩ t
    · exact .same (by simp [exec, waitQueueWaitSection, h])
  | waitTimeout q m r =>
    by_cases h : (s.waitQueues q).count < 8
    · simp only [exec, waitQueueWaitTimeoutSection, h, dif_pos]
      exact setTask_current_change (.waitTimeout q m r) rfl not_runnable_blocked ⟨_, rfl⟩ t
    · exact .same (by simp [exec, waitQueueWaitTimeoutSection, h])
  | remaining q start m r =>
    refine .same ?_
    simp only [exec]
    split_ifs <;> rfl
  | wake q => exact waitQueueWakeOne_change (.wake q) s q (fun t ht => ht) t
  | wakeAll q => exact waitQueueWakeOne_change (.wakeAll q) s q (fun t ht => ht) t
  | signalWake e => exact waitQueueWakeOne_change (.signalWake e) s (.event e) (fun t ht => ht) t
  | broadcastWake e => exact waitQueueWakeOne_change (.broadcastWake e) s (.event e) (fun t ht => ht) t
  | eventTest e m =>
    refine .same ?_
    simp only [exec, schedEventTestSection]
    split_ifs <;> rfl
  | send c v r =>
    refine .same ?_
    simp only [exec, ipcSendSection]
    split_ifs <;> rfl
  | recv c r =>
    refine .same ?_
    simp only [exec, ipcRecvSection]
    split_ifs <;> rfl
  | own | halted | deadline | signalSet => exact .same rfl

/-- Only the switch changes the current task, and no section moves the clock or the table's end. -/
lemma Pc.exec_frame {pc : Pc} (hyield : pc ≠ .yield) (hswitch : ∀ r, pc ≠ .switch r) (s : Sched) :
    (pc.exec s).1.osCurrentTask = s.osCurrentTask ∧
      (pc.exec s).1.osTaskCount = s.osTaskCount ∧
      (pc.exec s).1.schedulerTicks = s.schedulerTicks := by
  have hwake : ∀ q, (waitQueueWakeOne q s).1.osCurrentTask = s.osCurrentTask ∧
      (waitQueueWakeOne q s).1.osTaskCount = s.osTaskCount ∧
      (waitQueueWakeOne q s).1.schedulerTicks = s.schedulerTicks := by
    intro q
    rcases waitQueueWakeOne_cases q s with ⟨r, hrun, -⟩ | ⟨r, u, dropped, hrun, -⟩ <;>
      rw [hrun] <;> exact ⟨rfl, rfl, rfl⟩
  have hparent : ∀ (u : TaskId) (s₀ : Sched),
      (wakeParent u s₀).osCurrentTask = s₀.osCurrentTask ∧
      (wakeParent u s₀).osTaskCount = s₀.osTaskCount ∧
      (wakeParent u s₀).schedulerTicks = s₀.schedulerTicks := by
    intro u s₀
    rcases wakeParent_cases u s₀ with heq | ⟨p, -, heq⟩ <;> rw [heq] <;> exact ⟨rfl, rfl, rfl⟩
  cases pc with
  | yield => exact absurd rfl hyield
  | switch r => exact absurd rfl (hswitch r)
  | exit code => exact hparent _ _
  | kill id code =>
    simp only [exec, taskKillSection]
    split
    · exact ⟨rfl, rfl, rfl⟩
    · split_ifs
      · exact ⟨rfl, rfl, rfl⟩
      · exact ⟨rfl, rfl, rfl⟩
      · exact hparent _ _
  | wake q => exact hwake q
  | wakeAll q => exact hwake q
  | signalWake | broadcastWake => exact hwake _
  | wait q r =>
    simp only [exec, waitQueueWaitSection]
    split_ifs <;> exact ⟨rfl, rfl, rfl⟩
  | waitTimeout q m r =>
    simp only [exec, waitQueueWaitTimeoutSection]
    split_ifs <;> exact ⟨rfl, rfl, rfl⟩
  | remaining q start m r =>
    simp only [exec]
    split_ifs <;> exact ⟨rfl, rfl, rfl⟩
  | eventTest e m =>
    simp only [exec, schedEventTestSection]
    split_ifs <;> exact ⟨rfl, rfl, rfl⟩
  | send c v r =>
    simp only [exec, ipcSendSection]
    split_ifs <;> exact ⟨rfl, rfl, rfl⟩
  | recv c r =>
    simp only [exec, ipcRecvSection]
    split_ifs <;> exact ⟨rfl, rfl, rfl⟩
  | _ => exact ⟨rfl, rfl, rfl⟩

lemma schedulerWakeSleepersLocked_stateOf (s : Sched) (t : TaskId) :
    (schedulerWakeSleepersLocked s).stateOf t =
      if s.InTable t ∧ (s.osTasks t).Due s.schedulerTicks then .ready else s.stateOf t := by
  simp only [schedulerWakeSleepersLocked, Sched.stateOf]
  split_ifs <;> rfl

/-- The table as the choice of the next task finds it. -/
def Sched.beforePick (s : Sched) (force : Bool) : Sched :=
  schedulerWakeSleepersLocked (s.demote force)

@[simp] lemma Sched.beforePick_current (s : Sched) (force : Bool) :
    (s.beforePick force).osCurrentTask = s.osCurrentTask := s.demote_current force

@[simp] lemma Sched.demote_osTaskCount (s : Sched) (force : Bool) :
    (s.demote force).osTaskCount = s.osTaskCount := by
  unfold demote
  split <;> rfl

@[simp] lemma Sched.beforePick_osTaskCount (s : Sched) (force : Bool) :
    (s.beforePick force).osTaskCount = s.osTaskCount := s.demote_osTaskCount force

@[simp] lemma Sched.demote_ticks (s : Sched) (force : Bool) :
    (s.demote force).schedulerTicks = s.schedulerTicks := by
  unfold demote
  split <;> rfl

@[simp] lemma Sched.demote_false (s : Sched) : s.demote false = s := by simp [demote]

lemma Sched.beforePick_stateOf_of_ne (s : Sched) (force : Bool) {t : TaskId}
    (ht : t ≠ s.osCurrentTask) :
    (s.beforePick force).stateOf t =
      if s.InTable t ∧ (s.osTasks t).Due s.schedulerTicks then .ready else s.stateOf t := by
  have htask : (s.demote force).osTasks t = s.osTasks t := by
    unfold demote
    split <;> simp [ht]
  rw [beforePick, schedulerWakeSleepersLocked_stateOf]
  simp [Sched.InTable, htask, Sched.stateOf]

lemma Sched.beforePick_false_stateOf (s : Sched) (t : TaskId) :
    (s.beforePick false).stateOf t =
      if s.InTable t ∧ (s.osTasks t).Due s.schedulerTicks then .ready else s.stateOf t := by
  rw [beforePick, demote_false, schedulerWakeSleepersLocked_stateOf]

lemma Tcb.not_due_of_runnable {tcb : Tcb} {ticks : UInt32} (h : tcb.state.Runnable) :
    ¬ tcb.Due ticks := by
  rintro ⟨hst, -⟩
  rcases h with h | h <;> simp [h] at hst

lemma Sched.beforePick_true_current {s : Sched} (h : s.stateOf s.osCurrentTask = .running) :
    (s.beforePick true).stateOf s.osCurrentTask = .ready := by
  have hstate : (s.demote true).stateOf s.osCurrentTask = .ready := by
    simp [demote, h, Sched.stateOf]
  rw [beforePick, schedulerWakeSleepersLocked_stateOf,
    if_neg (fun hdue => Tcb.not_due_of_runnable (Or.inl hstate) hdue.2), hstate]

@[simp] lemma schedulerSelectAndSwitch_running (force : Bool) (s : Sched) :
    (schedulerSelectAndSwitch force s).stateOf (schedulerSelectAndSwitch force s).osCurrentTask =
      .running := by
  simp [schedulerSelectAndSwitch, Sched.switchTo, Sched.stateOf, Tcb.run]

@[simp] lemma schedulerSelectAndSwitch_osTaskCount (force : Bool) (s : Sched) :
    (schedulerSelectAndSwitch force s).osTaskCount = s.osTaskCount := s.beforePick_osTaskCount force

lemma schedulerSelectAndSwitch_stateOf_of_ne (force : Bool) (s : Sched) {t : TaskId}
    (ht : t ≠ (schedulerSelectAndSwitch force s).osCurrentTask) :
    (schedulerSelectAndSwitch force s).stateOf t = (s.beforePick force).stateOf t :=
  congrArg Tcb.state (Function.update_of_ne ht ..)

/-- Which task the switch gives the processor to. -/
theorem schedulerSelectAndSwitch_cases (force : Bool) (s : Sched) :
    let new := (schedulerSelectAndSwitch force s).osCurrentTask
    let w := s.beforePick force
    (s.InTable new ∧ w.stateOf new = .ready) ∨
      ((∀ t, s.InTable t → w.stateOf t ≠ .ready) ∧ w.stateOf s.osCurrentTask = .running ∧
        new = s.osCurrentTask) ∨
      ((∀ t, s.InTable t → w.stateOf t ≠ .ready) ∧ w.stateOf s.osCurrentTask ≠ .running ∧
        s.InTable new ∧ w.stateOf new = .running) ∨
      ((∀ t, s.InTable t → ¬ (w.stateOf t).Runnable) ∧ new = s.osCurrentTask) := by
  have hnew : (schedulerSelectAndSwitch force s).osCurrentTask =
      schedulerPickNextLocked (s.beforePick force) (s.beforePick force).osCurrentTask := rfl
  have h := schedulerPickNextLocked_cases (s.beforePick force) (s.beforePick force).current_lt
  rw [← hnew] at h
  simpa [Sched.InTable] using h

lemma schedulerTimerTick_stateOf (s : Sched) (t : TaskId) :
    (schedulerTimerTick s).stateOf t =
      if s.InTable t ∧ (s.osTasks t).Due (s.schedulerTicks + 1) then .ready else s.stateOf t := by
  have hwoken := schedulerWakeSleepersLocked_stateOf
    { s with schedulerTicks := s.schedulerTicks + 1 } t
  set w := schedulerWakeSleepersLocked { s with schedulerTicks := s.schedulerTicks + 1 } with hw
  have hcount : w.countWaiting.stateOf t = w.stateOf t := by
    simp only [Sched.countWaiting, Sched.stateOf]
    split_ifs <;> rfl
  have hslice : (schedulerTimerTick s).stateOf t = w.countWaiting.stateOf t := by
    simp only [schedulerTimerTick, ← hw]
    split_ifs
    · by_cases ht : t = w.countWaiting.osCurrentTask
      · subst ht
        simp [Sched.stateOf]
      · simp [Sched.stateOf, ht]
    · rfl
  rw [hslice, hcount, hwoken]

@[simp] lemma schedulerTimerTick_current (s : Sched) :
    (schedulerTimerTick s).osCurrentTask = s.osCurrentTask := by
  simp only [schedulerTimerTick]
  split_ifs <;> rfl

@[simp] lemma createTask_stateOf_same (index : TaskId) (parent : Int) (s : Sched) :
    (createTask index parent s).stateOf index = .ready := by
  simp [createTask, Sched.stateOf, createTaskTcb]

lemma createTask_stateOf_of_ne {index t : TaskId} (parent : Int) (s : Sched) (h : t ≠ index) :
    (createTask index parent s).stateOf t = s.stateOf t := by
  simp [createTask, Sched.stateOf, h]

lemma Resume.pc_ne_switch (r r' : Resume) : r.pc ≠ .switch r' := by
  cases r <;> simp [pc]

lemma Call.enter_ne_switch (c : Call) (ticks : UInt32) (r : Resume) :
    c.enter ticks ≠ .switch r := by
  cases c with
  | ipcSend channel value | ipcSendWait channel value =>
    cases h : ipcChannel channel <;> simp [enter, h]
  | ipcRecv channel out | ipcRecvWait channel out =>
    cases h : ipcRecvChannel channel out <;> simp [enter, h]
  | ipcSendTimeout channel value m =>
    simp only [enter]
    split_ifs
    · simp
    · cases ipcChannel channel <;> simp
  | ipcRecvTimeout channel out m =>
    simp only [enter]
    split_ifs
    · simp
    · cases ipcRecvChannel channel out <;> simp
  | taskSleep n | taskSleepTimeout n m | waitQueueWaitTimeout q m | schedEventWaitTimeout e m =>
    simp only [enter]
    split_ifs <;> simp
  | _ => simp [enter]

end NeuroSpark
