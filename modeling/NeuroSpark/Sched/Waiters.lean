import NeuroSpark.Sched.Wakeups

/-!
# Whom a wake-up reaches

An entry of a wait queue is a task number and nothing else. It stays when the task leaves the wait
by a time-out, because nobody else could run or because it was killed, and `wait_queue_wake_one`
takes any BLOCKED task it finds for a waiter: one that has gone on to wait on another queue, or one
that a signal has stopped.
-/

namespace NeuroSpark

open Function (update update_self update_of_ne)

variable {s : Sched}

/-! ### Signals -/

/-- The delivery of `SIGSTOP` or `SIGTSTP` to the current task. -/
def signalStop (s : Sched) : Sched :=
  s.setTask s.osCurrentTask
    { s.osTasks s.osCurrentTask with state := .blocked, wakeTick := 0, waitReason := .none }

/-- The delivery of `SIGCONT` to the current task. -/
def signalCont (s : Sched) : Sched :=
  let tcb := s.osTasks s.osCurrentTask
  if tcb.state = .blocked ∧ tcb.waitReason = .none then
    s.setTask s.osCurrentTask { tcb with state := .ready, wakeTick := 0 }
  else s

/-- The `kill` of the shell. -/
def cmdKill (pid : Int) (s : Sched) : Sched :=
  match s.taskAt pid with
  | none => s
  | some t =>
    if t = 0 ∨ s.stateOf t = .terminated then s
    else s.setTask t { s.osTasks t with state := .terminated, timeSlice := 0 }

/-- A step of the kernel, a signal for the current task, which is in its own code, or a `kill` that
it types in the shell. -/
inductive SignalMove where
  | move (m : Move)
  | stop
  | cont
  | shellKill (pid : Int)

/-- The kernel, and for each task the queue of the last wait that has blocked it. -/
structure WaitRun where
  kernel : Kernel
  waiting : TaskId → Option WaitQueue

/-- The queue on which the next section blocks the current task. -/
def Pc.blocksOn (s : Sched) : Pc → Option WaitQueue
  | .wait q _ | .waitTimeout q _ _ => if (s.waitQueues q).count < 8 then some q else none
  | _ => none

/-- The queue from which the next section wakes a task. -/
def Pc.wakesFrom : Pc → Option WaitQueue
  | .wake q | .wakeAll q => some q
  | .signalWake e | .broadcastWake e => some (.event e)
  | _ => none

lemma Pc.exec_of_wakesFrom {pc : Pc} {q : WaitQueue} (h : pc.wakesFrom = some q) (s : Sched) :
    (pc.exec s).1 = (waitQueueWakeOne q s).1 := by
  cases pc with
  | wake q | wakeAll q | signalWake e | broadcastWake e =>
    cases h
    rfl
  | _ => cases h

lemma wakeParent_blocked (child : TaskId) {t : TaskId}
    (h : (wakeParent child s).stateOf t = .blocked) : s.stateOf t = .blocked := by
  rcases wakeParent_cases child s with heq | ⟨parent, -, heq⟩
  · rw [heq] at h
    exact h
  · rw [heq] at h
    by_cases ht : t = parent
    · subst ht
      simp [Sched.stateOf, Sched.setTask] at h
    · simpa [Sched.stateOf, Sched.setTask, ht] using h

lemma wakeParent_waitQueues (child : TaskId) (s : Sched) :
    (wakeParent child s).waitQueues = s.waitQueues := by
  rcases wakeParent_cases child s with heq | ⟨parent, -, heq⟩
  · rw [heq]
  · rw [heq]
    rfl

lemma setTask_blocked {t u : TaskId} {tcb : Tcb} (hst : tcb.state ≠ .blocked)
    (h : (s.setTask t tcb).stateOf u = .blocked) : s.stateOf u = .blocked := by
  by_cases hu : u = t
  · subst hu
    simp only [Sched.stateOf, Sched.setTask, update_self] at h
    exact absurd h hst
  · simpa [Sched.stateOf, Sched.setTask, hu] using h

lemma schedulerSelectAndSwitch_blocked {force : Bool} {t : TaskId}
    (h : (schedulerSelectAndSwitch force s).stateOf t = .blocked) : s.stateOf t = .blocked := by
  have hne : t ≠ (schedulerSelectAndSwitch force s).osCurrentTask := by
    rintro rfl
    rw [schedulerSelectAndSwitch_running] at h
    cases h
  rw [schedulerSelectAndSwitch_stateOf_of_ne force s hne, Sched.beforePick,
    schedulerWakeSleepersLocked_stateOf] at h
  unfold Sched.demote at h
  split_ifs at h
  · exact setTask_blocked (by simp) h
  · exact h

lemma Pc.exec_blocked {pc : Pc} (hblocks : pc.blocksOn s = none) (hwakes : pc.wakesFrom = none) :
    (pc.exec s).1.waitQueues = s.waitQueues ∧
      ∀ t, (pc.exec s).1.stateOf t = .blocked → s.stateOf t = .blocked := by
  cases pc with
  | yield | switch r =>
    exact ⟨Kernel.schedulerSelectAndSwitch_waitQueues _ s, fun t h =>
      schedulerSelectAndSwitch_blocked h⟩
  | sleep n | sleepTimeout n m => exact ⟨rfl, fun t h => setTask_blocked (by simp) h⟩
  | exit code =>
    refine ⟨wakeParent_waitQueues _ _, fun t h => ?_⟩
    exact setTask_blocked (by simp [Tcb.terminate]) (wakeParent_blocked _ h)
  | kill id code =>
    simp only [exec, taskKillSection]
    split
    · exact ⟨rfl, fun t h => h⟩
    · split_ifs
      · exact ⟨rfl, fun t h => h⟩
      · exact ⟨rfl, fun t h => h⟩
      · refine ⟨wakeParent_waitQueues _ _, fun t h => ?_⟩
        exact setTask_blocked (by simp [Tcb.terminate]) (wakeParent_blocked _ h)
  | wait q r =>
    simp only [blocksOn, ite_eq_right_iff, reduceCtorEq, imp_false] at hblocks
    simp [exec, waitQueueWaitSection, hblocks]
  | waitTimeout q m r =>
    simp only [blocksOn, ite_eq_right_iff, reduceCtorEq, imp_false] at hblocks
    simp [exec, waitQueueWaitTimeoutSection, hblocks]
  | remaining q start m r =>
    simp only [exec]
    split_ifs <;> exact ⟨rfl, fun t h => h⟩
  | eventTest e m =>
    simp only [exec, schedEventTestSection]
    split_ifs <;> exact ⟨rfl, fun t h => h⟩
  | send c value r =>
    simp only [exec, ipcSendSection]
    split_ifs <;> exact ⟨rfl, fun t h => h⟩
  | recv c r =>
    simp only [exec, ipcRecvSection]
    split_ifs <;> exact ⟨rfl, fun t h => h⟩
  | wake q | wakeAll q | signalWake e | broadcastWake e => cases hwakes
  | _ => exact ⟨rfl, fun t h => h⟩

lemma Pc.exec_osTaskCount (pc : Pc) (s : Sched) : (pc.exec s).1.osTaskCount = s.osTaskCount := by
  by_cases hyield : pc = .yield
  · subst hyield
    exact schedulerSelectAndSwitch_osTaskCount true s
  · by_cases hswitch : ∃ r, pc = .switch r
    · obtain ⟨r, rfl⟩ := hswitch
      exact schedulerSelectAndSwitch_osTaskCount false s
    · exact (Pc.exec_frame hyield (fun r h => hswitch ⟨r, h⟩) s).2.1

lemma Pc.exec_of_blocksOn {pc : Pc} {q : WaitQueue} (h : pc.blocksOn s = some q) :
    ((pc.exec s).1.waitQueues q).toList =
        (s.waitQueues q).toList ++ [(s.osCurrentTask.val : Int)] ∧
      (∀ q', q' ≠ q → (pc.exec s).1.waitQueues q' = s.waitQueues q') ∧
      (pc.exec s).1.stateOf s.osCurrentTask = .blocked ∧
      ∀ t, t ≠ s.osCurrentTask → (pc.exec s).1.stateOf t = s.stateOf t := by
  have hsection : ∃ hroom : (s.waitQueues q).count < 8, ∃ tcb : Tcb,
      (pc.exec s).1 = (s.setQueue q ((s.waitQueues q).push s.osCurrentTask.val hroom)).setTask
        s.osCurrentTask tcb ∧ tcb.state = .blocked := by
    cases pc with
    | wait q' r =>
      simp only [blocksOn, Option.ite_none_right_eq_some, Option.some.injEq] at h
      obtain ⟨hroom, rfl⟩ := h
      simp only [exec, waitQueueWaitSection, dif_pos hroom]
      exact ⟨hroom, _, rfl, rfl⟩
    | waitTimeout q' m r =>
      simp only [blocksOn, Option.ite_none_right_eq_some, Option.some.injEq] at h
      obtain ⟨hroom, rfl⟩ := h
      simp only [exec, waitQueueWaitTimeoutSection, dif_pos hroom]
      exact ⟨hroom, _, rfl, rfl⟩
    | _ => cases h
  obtain ⟨hroom, tcb, hexec, hst⟩ := hsection
  rw [hexec]
  refine ⟨?_, ?_, ?_, ?_⟩
  · simp [Sched.setTask, Sched.setQueue, RingBuffer.toList_push]
  · intro q' hq'
    simp [Sched.setTask, Sched.setQueue, hq']
  · simpa [Sched.stateOf, Sched.setTask] using hst
  · intro t ht
    simp [Sched.stateOf, Sched.setTask, Sched.setQueue, ht]

namespace WaitRun

def step (r : WaitRun) : SignalMove → WaitRun × Unit
  | .move .go =>
    let waiting :=
      match r.kernel.currentPc.blocksOn r.kernel.sched with
      | some q => Function.update r.waiting r.kernel.current (some q)
      | none => r.waiting
    ({ kernel := r.kernel.advance, waiting := waiting }, ())
  | .move m => ({ r with kernel := (r.kernel.step m).1 }, ())
  | .stop =>
    if r.kernel.currentPc = .own then
      ({ kernel := { r.kernel with sched := signalStop r.kernel.sched }
         waiting := Function.update r.waiting r.kernel.current none }, ())
    else (r, ())
  | .cont =>
    if r.kernel.currentPc = .own then
      ({ r with kernel := { r.kernel with sched := signalCont r.kernel.sched } }, ())
    else (r, ())
  | .shellKill pid =>
    if r.kernel.currentPc = .own then
      ({ r with kernel := { r.kernel with sched := cmdKill pid r.kernel.sched } }, ())
    else (r, ())

/-- When the kernel starts. -/
def boot : WaitRun where
  kernel := Kernel.boot
  waiting _ := none

/-- The task is BLOCKED by a wait on the queue that has not returned. -/
def WaitsOn (r : WaitRun) (q : WaitQueue) (t : TaskId) : Prop :=
  r.kernel.sched.InTable t ∧ r.kernel.sched.stateOf t = .blocked ∧ r.waiting t = some q

/-- A `wait_queue_wake_one` on any queue makes one of its waiters READY, if it has any, and no other
task. -/
def WakesWaiters (r : WaitRun) : Prop :=
  ∀ q, ((waitQueueWakeOne q r.kernel.sched).2 = true →
      ∃ t, r.WaitsOn q t ∧ (waitQueueWakeOne q r.kernel.sched).1.stateOf t = .ready ∧
        ∀ u, u ≠ t →
          (waitQueueWakeOne q r.kernel.sched).1.stateOf u = r.kernel.sched.stateOf u) ∧
    ((∃ t, r.WaitsOn q t) → (waitQueueWakeOne q r.kernel.sched).2 = true)

/-- The task has an entry in the queue. -/
def Listed (r : WaitRun) (q : WaitQueue) (t : TaskId) : Prop := Kernel.entry t ∈ r.kernel.queue q

/-- A task that a wait blocks has left no entry in another queue, and one that a signal stops has
left none at all. -/
def BlocksClean (r : WaitRun) : SignalMove → Prop
  | .move .go => ∀ q q', r.kernel.currentPc.blocksOn r.kernel.sched = some q → q' ≠ q →
      ¬ r.Listed q' r.kernel.current
  | .stop => r.kernel.currentPc = .own → ∀ q, ¬ r.Listed q r.kernel.current
  | _ => True

/-- The entries of BLOCKED tasks tell what they wait for. -/
structure Known (r : WaitRun) : Prop where
  waiting : ∀ t q, r.kernel.sched.stateOf t = .blocked → r.Listed q t → r.waiting t = some q
  listed : ∀ t q, r.kernel.sched.stateOf t = .blocked → r.waiting t = some q →
    r.kernel.sched.InTable t ∧ r.Listed q t

variable {r r' : WaitRun}

lemma known_boot : boot.Known where
  waiting t q _ hlisted := by simp [Listed, boot, Kernel.queue, Kernel.boot, Sched.boot] at hlisted
  listed t q _ hwaiting := by cases hwaiting

lemma Known.wakesWaiters (h : r.Known) : r.WakesWaiters := by
  intro q
  rcases waitQueueWakeOne_cases q r.kernel.sched with
    ⟨queue, hrun, -, hnone⟩ | ⟨queue, t, dropped, hrun, hlist, -, hin, hst⟩
  · constructor
    · intro htrue
      rw [hrun] at htrue
      cases htrue
    · rintro ⟨t, hin, hst, hwaiting⟩
      have hblocked : r.kernel.sched.blockedAt t.val = none := hnone _ (h.listed t q hst hwaiting).2
      rw [Sched.blockedAt_eq_some.2 ⟨rfl, hin, hst⟩] at hblocked
      cases hblocked
  · have hlisted : r.Listed q t := by
      rw [Listed, Kernel.queue, hlist]
      exact List.mem_append_right _ (List.mem_cons_self ..)
    constructor
    · intro _
      refine ⟨t, ⟨hin, hst, h.waiting t q hst hlisted⟩, ?_, ?_⟩
      · rw [hrun]
        simp [Sched.stateOf, Sched.setTask, Tcb.wake]
      · intro u hu
        rw [hrun]
        simp [Sched.stateOf, Sched.setTask, Sched.setQueue, update_of_ne hu]
    · intro _
      rw [hrun]

lemma Known.of_blocked (h : r.Known)
    (hcount : r.kernel.sched.osTaskCount ≤ r'.kernel.sched.osTaskCount)
    (hwaiting : r'.waiting = r.waiting)
    (hblocked : ∀ t, r'.kernel.sched.stateOf t = .blocked → r.kernel.sched.stateOf t = .blocked)
    (hlisted : ∀ t q, r'.kernel.sched.stateOf t = .blocked → (r'.Listed q t ↔ r.Listed q t)) :
    r'.Known := by
  constructor
  · intro t q hst hentry
    rw [hwaiting]
    exact h.waiting t q (hblocked t hst) ((hlisted t q hst).1 hentry)
  · intro t q hst hwait
    rw [hwaiting] at hwait
    obtain ⟨hin, hentry⟩ := h.listed t q (hblocked t hst) hwait
    exact ⟨lt_of_lt_of_le hin hcount, (hlisted t q hst).2 hentry⟩

lemma Known.of_frame (h : r.Known)
    (hqueues : r'.kernel.sched.waitQueues = r.kernel.sched.waitQueues)
    (hcount : r.kernel.sched.osTaskCount ≤ r'.kernel.sched.osTaskCount)
    (hwaiting : r'.waiting = r.waiting)
    (hblocked : ∀ t, r'.kernel.sched.stateOf t = .blocked → r.kernel.sched.stateOf t = .blocked) :
    r'.Known := by
  apply h.of_blocked hcount hwaiting hblocked
  intro t q _
  rw [Listed, Listed, Kernel.queue, Kernel.queue, hqueues]

/-! ### One step -/

lemma Known.wait (h : r.Known) {q : WaitQueue}
    (hpc : r.kernel.currentPc.blocksOn r.kernel.sched = some q)
    (hclean : ∀ q', q' ≠ q → ¬ r.Listed q' r.kernel.current) :
    Known ⟨r.kernel.advance, update r.waiting r.kernel.current (some q)⟩ := by
  obtain ⟨hqueue, hother, hblocked, hstate⟩ := Pc.exec_of_blocksOn hpc
  have hcount := Pc.exec_osTaskCount r.kernel.currentPc r.kernel.sched
  have hold : ∀ t q', t ≠ r.kernel.current →
      (Listed ⟨r.kernel.advance, update r.waiting r.kernel.current (some q)⟩ q' t ↔
        r.Listed q' t) := by
    intro t q' ht
    have hne : Kernel.entry t ≠ Kernel.entry r.kernel.current := Kernel.entry_injective.ne ht
    change Kernel.entry t ∈ ((r.kernel.currentPc.exec r.kernel.sched).1.waitQueues q').toList ↔ _
    by_cases hq : q' = q
    · subst hq
      rw [hqueue, List.mem_append, List.mem_singleton]
      exact or_iff_left hne
    · rw [hother q' hq]
      exact Iff.rfl
  constructor
  · intro t q' hst hlisted
    by_cases ht : t = r.kernel.current
    · subst ht
      simp only [update_self]
      by_contra hne
      have hq : q' ≠ q := fun heq => hne (by rw [heq])
      apply hclean q' hq
      change Kernel.entry _ ∈ ((r.kernel.currentPc.exec r.kernel.sched).1.waitQueues q').toList
        at hlisted
      rw [hother q' hq] at hlisted
      exact hlisted
    · simp only [update_of_ne ht]
      exact h.waiting t q' ((hstate t ht).symm.trans hst) ((hold t q' ht).1 hlisted)
  · intro t q' hst hwaiting
    change t.val < (r.kernel.currentPc.exec r.kernel.sched).1.osTaskCount ∧ _
    rw [hcount]
    by_cases ht : t = r.kernel.current
    · subst ht
      simp only [update_self, Option.some.injEq] at hwaiting
      subst hwaiting
      refine ⟨r.kernel.sched.current_lt, ?_⟩
      change Kernel.entry _ ∈ ((r.kernel.currentPc.exec r.kernel.sched).1.waitQueues q).toList
      rw [hqueue]
      exact List.mem_append_right _ (List.mem_singleton.2 rfl)
    · simp only [update_of_ne ht] at hwaiting
      obtain ⟨hin, hlisted⟩ := h.listed t q' ((hstate t ht).symm.trans hst) hwaiting
      exact ⟨hin, (hold t q' ht).2 hlisted⟩

/-- The entries that a wake-up takes from its queue are of tasks that were not BLOCKED, or are not
any more. -/
lemma Known.wake (h : r.Known) {q : WaitQueue} (hpc : r.kernel.currentPc.wakesFrom = some q) :
    Known ⟨r.kernel.advance, r.waiting⟩ := by
  have hsched : r.kernel.advance.sched = (waitQueueWakeOne q r.kernel.sched).1 :=
    Pc.exec_of_wakesFrom hpc r.kernel.sched
  have hblockedAt : ∀ t, r.kernel.sched.stateOf t = .blocked → r.Listed q t →
      r.kernel.sched.blockedAt (Kernel.entry t) = some t := by
    intro t hst hlisted
    exact Sched.blockedAt_eq_some.2 ⟨rfl, (h.listed t q hst (h.waiting t q hst hlisted)).1, hst⟩
  rcases waitQueueWakeOne_cases q r.kernel.sched with
    ⟨queue, hrun, hnil, hnone⟩ | ⟨queue, u, dropped, hrun, hlist, hdropped, hin, hst⟩
  · rw [hrun] at hsched
    apply h.of_blocked
    · rw [hsched]
      exact le_refl _
    · rfl
    · intro t ht
      rw [hsched] at ht
      exact ht
    · intro t q' ht
      rw [hsched] at ht
      rw [Listed, Kernel.queue, hsched]
      by_cases hq : q' = q
      · subst hq
        have hnot : ¬ r.Listed q' t := by
          intro hlisted
          have hsome := hblockedAt t ht hlisted
          rw [hnone _ hlisted] at hsome
          cases hsome
        simp [Sched.setQueue, hnil, hnot]
      · simp [Sched.setQueue, hq, Listed, Kernel.queue]
  · rw [hrun] at hsched
    have hwoken : (r.kernel.advance.sched).stateOf u = .ready := by
      rw [hsched]
      simp [Sched.stateOf, Sched.setTask, Tcb.wake]
    apply h.of_blocked
    · rw [hsched]
      exact le_refl _
    · rfl
    · intro t ht
      rw [hsched] at ht
      exact setTask_blocked (by simp [Tcb.wake]) ht
    · intro t q' ht
      have hne : t ≠ u := by
        rintro rfl
        rw [hwoken] at ht
        cases ht
      rw [hsched] at ht
      have hbefore : r.kernel.sched.stateOf t = .blocked := setTask_blocked (by simp [Tcb.wake]) ht
      rw [Listed, Kernel.queue, hsched]
      by_cases hq : q' = q
      · subst hq
        have hmem : r.Listed q' t ↔ Kernel.entry t ∈ queue.toList := by
          rw [Listed, Kernel.queue, hlist, List.mem_append, List.mem_cons]
          constructor
          · rintro (hdrop | heq | hrest)
            · have hlisted : r.Listed q' t := by
                rw [Listed, Kernel.queue, hlist]
                exact List.mem_append_left _ hdrop
              have hsome := hblockedAt t hbefore hlisted
              rw [hdropped _ hdrop] at hsome
              cases hsome
            · exact absurd (Kernel.entry_injective heq) hne
            · exact hrest
          · intro hrest
            exact Or.inr (Or.inr hrest)
        rw [hmem]
        simp [Sched.setTask, Sched.setQueue]
      · simp [Sched.setTask, Sched.setQueue, hq, Listed, Kernel.queue]

lemma Known.stop (h : r.Known) (hclean : ∀ q, ¬ r.Listed q r.kernel.current) :
    Known ⟨{ r.kernel with sched := signalStop r.kernel.sched },
      update r.waiting r.kernel.current none⟩ := by
  have hstate : ∀ t, t ≠ r.kernel.current →
      (signalStop r.kernel.sched).stateOf t = r.kernel.sched.stateOf t := by
    intro t ht
    simp [signalStop, Sched.stateOf, Sched.setTask, ht]
  constructor
  · intro t q hst hlisted
    by_cases ht : t = r.kernel.current
    · subst ht
      exact absurd hlisted (hclean q)
    · simp only [update_of_ne ht]
      exact h.waiting t q ((hstate t ht).symm.trans hst) hlisted
  · intro t q hst hwaiting
    by_cases ht : t = r.kernel.current
    · subst ht
      simp at hwaiting
    · simp only [update_of_ne ht] at hwaiting
      exact h.listed t q ((hstate t ht).symm.trans hst) hwaiting

lemma signalCont_blocked {s : Sched} {t : TaskId} (h : (signalCont s).stateOf t = .blocked) :
    s.stateOf t = .blocked := by
  simp only [signalCont] at h
  split_ifs at h
  · exact setTask_blocked (by simp) h
  · exact h

lemma signalCont_frame (s : Sched) :
    (signalCont s).waitQueues = s.waitQueues ∧ (signalCont s).osTaskCount = s.osTaskCount := by
  simp only [signalCont]
  split_ifs <;> exact ⟨rfl, rfl⟩

lemma cmdKill_blocked {pid : Int} {s : Sched} {t : TaskId}
    (h : (cmdKill pid s).stateOf t = .blocked) : s.stateOf t = .blocked := by
  unfold cmdKill at h
  split at h
  · exact h
  · split_ifs at h
    · exact h
    · exact setTask_blocked (by simp) h

lemma cmdKill_frame (pid : Int) (s : Sched) :
    (cmdKill pid s).waitQueues = s.waitQueues ∧ (cmdKill pid s).osTaskCount = s.osTaskCount := by
  unfold cmdKill
  split
  · exact ⟨rfl, rfl⟩
  · split_ifs <;> exact ⟨rfl, rfl⟩

lemma schedulerTimerTick_frame (s : Sched) :
    (schedulerTimerTick s).waitQueues = s.waitQueues ∧
      (schedulerTimerTick s).osTaskCount = s.osTaskCount := by
  simp only [schedulerTimerTick]
  split_ifs <;> exact ⟨rfl, rfl⟩

lemma Known.step (h : r.Known) (m : SignalMove) (hclean : r.BlocksClean m) :
    (r.step m).1.Known := by
  cases m with
  | move m =>
    cases m with
    | go =>
      cases hblocks : r.kernel.currentPc.blocksOn r.kernel.sched with
      | some q =>
        simp only [WaitRun.step, hblocks]
        exact h.wait hblocks fun q' hq' => hclean q q' hblocks hq'
      | none =>
        simp only [WaitRun.step, hblocks]
        cases hwakes : r.kernel.currentPc.wakesFrom with
        | some q => exact h.wake hwakes
        | none =>
          obtain ⟨hqueues, hblocked⟩ := Pc.exec_blocked hblocks hwakes
          exact h.of_frame hqueues (Pc.exec_osTaskCount _ _).ge rfl hblocked
    | call c =>
      simp only [WaitRun.step, Kernel.step]
      split_ifs
      · exact h.of_frame rfl (le_refl _) rfl fun t ht => ht
      · exact h
    | tick =>
      obtain ⟨hqueues, hcount⟩ := schedulerTimerTick_frame r.kernel.sched
      refine h.of_frame hqueues hcount.ge rfl fun t ht => ?_
      change (schedulerTimerTick r.kernel.sched).stateOf t = _ at ht
      rw [schedulerTimerTick_stateOf] at ht
      split_ifs at ht
      exact ht
    | create index parent =>
      simp only [WaitRun.step, Kernel.step]
      split_ifs
      · refine h.of_frame rfl (le_max_left _ _) rfl fun t ht => ?_
        by_cases hti : t = index
        · subst hti
          rw [createTask_stateOf_same] at ht
          cases ht
        · rwa [createTask_stateOf_of_ne parent r.kernel.sched hti] at ht
      · exact h
  | stop =>
    simp only [WaitRun.step]
    split_ifs with hown
    · exact h.stop (hclean hown)
    · exact h
  | cont =>
    simp only [WaitRun.step]
    split_ifs
    · obtain ⟨hqueues, hcount⟩ := signalCont_frame r.kernel.sched
      exact h.of_frame hqueues hcount.ge rfl fun t ht => signalCont_blocked ht
    · exact h
  | shellKill pid =>
    simp only [WaitRun.step]
    split_ifs
    · obtain ⟨hqueues, hcount⟩ := cmdKill_frame pid r.kernel.sched
      exact h.of_frame hqueues hcount.ge rfl fun t ht => cmdKill_blocked ht
    · exact h

end WaitRun

/-- From boot on, as long as no task blocks with an entry left in another queue, every wake-up
reaches a waiter of its queue, and finds one if there is one. -/
theorem wakeOne_reaches_waiter {moves : List SignalMove}
    (h : Machine.Runs WaitRun.BlocksClean WaitRun.step WaitRun.boot moves) :
    ∀ pre, pre <+: moves → (Machine.run WaitRun.step WaitRun.boot pre).WakesWaiters := by
  rintro pre ⟨post, rfl⟩
  have hpre := ((Machine.runs_append _ _ _ _ _).1 h).1
  exact (Machine.run_invariant (I := WaitRun.Known) (fun _ m hk hm => hk.step m hm)
    WaitRun.known_boot hpre).wakesWaiters

lemma WaitRun.blocksClean_of_none {r : WaitRun}
    (h : r.kernel.currentPc.blocksOn r.kernel.sched = none) : r.BlocksClean (.move .go) := by
  intro q q' hblocks
  rw [h] at hblocks
  cases hblocks

/-- Task 0 waits for a message on channel 0, and task 1 goes on. -/
def waitingMoves : List SignalMove :=
  [.move (.create 1 0), .move (.call (.ipcRecvWait 0 true)), .move .go, .move .go, .move .go]

/-- A receiver waits and is woken. -/
theorem wakeOne_reaches_waiter_sample :
    (Machine.run WaitRun.step WaitRun.boot waitingMoves).WakesWaiters ∧
      (waitQueueWakeOne (.ipcRecv 0)
        (Machine.run WaitRun.step WaitRun.boot waitingMoves).kernel.sched).2 = true := by
  constructor
  · refine wakeOne_reaches_waiter ?_ waitingMoves (List.prefix_refl _)
    refine ⟨trivial, trivial, WaitRun.blocksClean_of_none rfl, ?_,
      WaitRun.blocksClean_of_none rfl, trivial⟩
    intro q q' _ _ hlisted
    have hempty : (RingBuffer.empty (-1 : Int) (by decide : 0 < 8)).toList = [] := rfl
    change _ ∈ (RingBuffer.empty (-1 : Int) (by decide : 0 < 8)).toList at hlisted
    rw [hempty] at hlisted
    cases hlisted
  · decide

/-- Task 0 waits for a message on channel 0 for one tick. When the time is over it waits on channel
1. Its first entry is still there. -/
def staleMoves : List SignalMove :=
  [.move (.create 1 0), .move (.call (.ipcRecvTimeout 0 true 1)), .move .go, .move .go, .move .go,
    .move .go, .move .tick, .move (.call .taskYield), .move .go, .move .go,
    .move (.call (.ipcRecvWait 1 true)), .move .go, .move .go, .move .go]

/-- The wake-up for a message on channel 0 goes to the task that waits on channel 1. -/
theorem wakeOne_wakes_other :
    ¬ (Machine.run WaitRun.step WaitRun.boot staleMoves).WakesWaiters := by
  intro h
  have hwoken : (waitQueueWakeOne (.ipcRecv 0)
      (Machine.run WaitRun.step WaitRun.boot staleMoves).kernel.sched).2 = true := by
    decide
  have hnobody : ∀ t, (Machine.run WaitRun.step WaitRun.boot staleMoves).waiting t ≠
      some (.ipcRecv 0) := by
    decide
  obtain ⟨t, ⟨-, -, hwaiting⟩, -⟩ := (h (.ipcRecv 0)).1 hwoken
  exact hnobody t hwaiting

end NeuroSpark
