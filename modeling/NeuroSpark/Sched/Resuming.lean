import NeuroSpark.Sched.Running

/-!
# Who is resumed, and why

A task that sleeps, waits or has left goes on only after it was released: its tick has come, it was
woken from a queue, or its child left. This is so at every step as long as a wait finds room in its
queue and every switch finds somebody to run.
-/

namespace NeuroSpark

/-- The next section stops the task: the calls that must not return too early. -/
def Pc.Suspends : Pc → Prop
  | .sleep _ | .sleepTimeout _ _ | .exit _ | .wait _ _ | .waitTimeout _ _ _ => True
  | _ => False

/-- A wait finds room in its queue, and a switch finds a task that can run or is due. -/
def Pc.FindsTask (s : Sched) : Pc → Prop
  | .wait q _ | .waitTimeout q _ _ => (s.waitQueues q).count < 8
  | .switch _ => ∃ t, s.InTable t ∧
      ((s.stateOf t).Runnable ∨ (s.osTasks t).Due s.schedulerTicks)
  | _ => True

instance (s : Sched) (pc : Pc) : Decidable (pc.FindsTask s) :=
  match pc with
  | .wait q _ | .waitTimeout q _ _ => inferInstanceAs (Decidable ((s.waitQueues q).count < 8))
  | .switch _ =>
    inferInstanceAs (Decidable (∃ t, s.InTable t ∧
      ((s.stateOf t).Runnable ∨ (s.osTasks t).Due s.schedulerTicks)))
  | .own | .halted | .yield | .sleep _ | .sleepTimeout _ _ | .exit _ | .kill _ _
  | .remaining _ _ _ _ | .deadline _ _ | .wake _ | .wakeAll _ | .eventTest _ _ | .signalWake _
  | .broadcastWake _ | .signalSet _ | .send _ _ _ | .recv _ _ => inferInstanceAs (Decidable True)

namespace Kernel

/-- The step makes the task READY for a reason, or puts a new task in its slot. -/
def Releases (k : Kernel) (m : Move) (t : TaskId) : Prop :=
  match m with
  | .call _ => False
  | .go => k.currentPc.Releases k.sched t
  | .tick => (k.sched.osTasks t).Due (k.sched.schedulerTicks + 1)
  | .create index _ => t = index

/-- Waits find room and switches find a task. -/
def SwitchFindsTask (k : Kernel) (m : Move) : Prop :=
  match m with
  | .go => k.currentPc.FindsTask k.sched
  | _ => True

instance (k : Kernel) (m : Move) : Decidable (k.SwitchFindsTask m) :=
  match m with
  | .go => inferInstanceAs (Decidable (k.currentPc.FindsTask k.sched))
  | .call _ | .tick | .create _ _ => inferInstanceAs (Decidable True)

/-- One task is RUNNING, and none on its way to the switch. -/
structure Disciplined (k : Kernel) : Prop extends k.SingleRunning where
  stopped : ∀ r, k.currentPc = .switch r → k.sched.stateOf k.current ≠ .running

variable {k : Kernel} {m : Move} {t : TaskId} {s : Sched} {force : Bool}

lemma Disciplined.switchIsClear (h : k.Disciplined) (m : Move) : k.SwitchIsClear m :=
  fun r _ hpc hrun => absurd hrun (h.stopped r hpc)

lemma boot_disciplined : Kernel.boot.Disciplined where
  toSingleRunning := boot_singleRunning
  stopped r := by simp [boot]

/-! ### The stopping sections -/

lemma taskExitSection_stateOf (code : Int) (s : Sched) :
    (taskExitSection code s).stateOf s.osCurrentTask = .terminated := by
  rw [taskExitSection]
  rcases wakeParent_cases s.osCurrentTask
    (s.setTask s.osCurrentTask ((s.osTasks s.osCurrentTask).terminate code)) with
    heq | ⟨p, hp, heq⟩
  · rw [heq]
    simp [Sched.stateOf, Tcb.terminate]
  · -- the parent was BLOCKED, so it is not the task that leaves
    have hne : s.osCurrentTask ≠ p := by
      rintro rfl
      simpa [Sched.stateOf, Tcb.terminate] using hp.1
    rw [heq]
    simp [Sched.stateOf, Tcb.terminate, hne]

lemma exec_not_runnable (hok : k.SwitchFindsTask .go) (hpc : k.currentPc.Suspends) :
    ¬ ((k.currentPc.exec k.sched).1.stateOf k.current).Runnable := by
  simp only [SwitchFindsTask] at hok
  cases hcur : k.currentPc with
  | sleep n => simp [Pc.exec, taskSleepSection, Sched.stateOf, TaskState.Runnable]
  | sleepTimeout n m =>
    simp [Pc.exec, taskSleepTimeoutSection, Sched.stateOf, TaskState.Runnable]
  | exit code =>
    rw [Pc.exec, taskExitSection_stateOf]
    exact not_runnable_terminated
  | wait q r =>
    simp only [hcur, Pc.FindsTask] at hok
    simp [Pc.exec, waitQueueWaitSection, hok, Sched.stateOf, TaskState.Runnable]
  | waitTimeout q m r =>
    simp only [hcur, Pc.FindsTask] at hok
    simp [Pc.exec, waitQueueWaitTimeoutSection, hok, Sched.stateOf, TaskState.Runnable]
  | _ => simp [hcur, Pc.Suspends] at hpc

lemma suspends_of_exec_switch {pc : Pc} {r : Resume} (hpc : (pc.exec s).2 = .switch r)
    (hswitch : ∀ r', pc ≠ .switch r') : pc.Suspends := by
  cases pc with
  | switch r' => exact absurd rfl (hswitch r')
  | sleep | sleepTimeout | exit | wait | waitTimeout => exact True.intro
  | kill id code =>
    simp only [Pc.exec] at hpc
    split at hpc
    · cases hpc
    · split_ifs at hpc
  | remaining q start m next =>
    simp only [Pc.exec] at hpc
    split_ifs at hpc
  | deadline tick next =>
    simp only [Pc.exec] at hpc
    split_ifs at hpc
    exact absurd hpc (next.pc_ne_switch r)
  | wakeAll q | signalWake e | broadcastWake e =>
    simp only [Pc.exec] at hpc
    split_ifs at hpc
  | eventTest e m =>
    simp only [Pc.exec] at hpc
    split_ifs at hpc
    cases m <;> cases hpc
  | send c v retry | recv c retry =>
    simp only [Pc.exec] at hpc
    split_ifs at hpc
    cases retry <;> cases hpc
  | _ => cases hpc

lemma SingleRunning.executing_of_switch (h : k.SingleRunning) (next : Resume) :
    Executing { sched := schedulerSelectAndSwitch force k.sched
                pc := Function.update k.pc k.current next.pc } := by
  intro r
  change Function.update k.pc k.current next.pc
    (schedulerSelectAndSwitch force k.sched).osCurrentTask ≠ _
  by_cases hnew : (schedulerSelectAndSwitch force k.sched).osCurrentTask = k.current
  · rw [hnew]
    simpa using next.pc_ne_switch r
  · rw [Function.update_of_ne hnew]
    exact h.points _ r hnew

lemma Disciplined.step (h : k.Disciplined) (hok : k.SwitchFindsTask m) :
    (k.step m).1.Disciplined := by
  refine ⟨h.toSingleRunning.step m (h.switchIsClear m), fun r hpc => ?_⟩
  cases m with
  | call c =>
    simp only [Kernel.step] at hpc ⊢
    split_ifs at hpc ⊢
    · exact absurd (by simpa [setPc, currentPc, current] using hpc) (c.enter_ne_switch _ r)
    · exact h.stopped r hpc
  | tick =>
    rw [currentPc, step_tick_current] at hpc
    rw [step_tick_current]
    change (schedulerTimerTick k.sched).stateOf k.current ≠ _
    rw [schedulerTimerTick_stateOf]
    split_ifs
    · simp
    · exact h.stopped r hpc
  | create index parent =>
    simp only [Kernel.step] at hpc ⊢
    split_ifs at hpc ⊢ with hslot
    · have hne : k.current ≠ index := hslot.2.1.symm
      simp only [currentPc, current] at hpc
      rw [show (createTask index parent k.sched).osCurrentTask = k.current from rfl,
        Function.update_of_ne hne] at hpc
      exact absurd hpc (by simp [hslot.1])
    · exact h.stopped r hpc
  | go =>
    change k.advance.currentPc = _ at hpc
    cases hcur : k.currentPc with
    | yield =>
      rw [advance_of_pc hcur] at hpc
      exact absurd hpc (h.toSingleRunning.executing_of_switch .own r)
    | switch next =>
      rw [advance_of_pc hcur] at hpc
      exact absurd hpc (h.toSingleRunning.executing_of_switch next r)
    | _ =>
      have hyield : k.currentPc ≠ .yield := by simp [hcur]
      have hswitch : ∀ r', k.currentPc ≠ .switch r' := by simp [hcur]
      have hsame : k.advance.current = k.current := (Pc.exec_frame hyield hswitch k.sched).1
      have hexec : (k.currentPc.exec k.sched).2 = .switch r := by
        rw [currentPc, hsame] at hpc
        simpa [advance] using hpc
      have hstop := exec_not_runnable hok (suspends_of_exec_switch hexec hswitch)
      change k.advance.sched.stateOf k.advance.current ≠ _
      rw [hsame]
      exact fun hrun => hstop (Or.inr hrun)

/-! ### Tasks that cannot run -/

lemma schedulerWakeSleepersLocked_of_not_due
    (hdue : ¬ (s.InTable t ∧ (s.osTasks t).Due s.schedulerTicks)) :
    (schedulerWakeSleepersLocked s).osTasks t = s.osTasks t :=
  if_neg hdue

lemma schedulerTimerTick_of_not_due (hst : ¬ (s.stateOf t).Runnable)
    (hdue : ¬ (s.InTable t ∧ (s.osTasks t).Due (s.schedulerTicks + 1))) :
    (schedulerTimerTick s).osTasks t = s.osTasks t := by
  have hwoken := schedulerWakeSleepersLocked_of_not_due (t := t)
    (s := { s with schedulerTicks := s.schedulerTicks + 1 }) hdue
  set w := schedulerWakeSleepersLocked { s with schedulerTicks := s.schedulerTicks + 1 } with hw
  have hcount : w.countWaiting.osTasks t = s.osTasks t := by
    have hready : (w.osTasks t).state ≠ .ready := by
      rw [hwoken]
      exact fun h => hst (Or.inl h)
    simpa [Sched.countWaiting, hready] using hwoken
  simp only [schedulerTimerTick, ← hw]
  split_ifs with hrun
  · -- the slice of the running task is another task's
    have hne : t ≠ w.countWaiting.osCurrentTask := by
      rintro rfl
      exact hst (Or.inr (by rw [Sched.stateOf, ← hcount]; exact hrun))
    rw [Sched.setTask_of_ne _ hne, hcount]
  · exact hcount

lemma beforePick_of_not_due (hst : ¬ (s.stateOf t).Runnable)
    (hdue : ¬ (s.InTable t ∧ (s.osTasks t).Due s.schedulerTicks)) :
    (s.beforePick force).osTasks t = s.osTasks t := by
  have hdemote : (s.demote force).osTasks t = s.osTasks t := by
    unfold Sched.demote
    split_ifs with hrun
    · have hne : t ≠ s.osCurrentTask := by
        rintro rfl
        exact hst (Or.inr hrun.2)
      exact Sched.setTask_of_ne _ hne
    · rfl
  rw [Sched.beforePick, schedulerWakeSleepersLocked_of_not_due (by simpa [hdemote] using hdue),
    hdemote]

/-- A task that cannot run when the choice is made is not chosen, unless it is the old one and
nobody can run. -/
lemma ne_picked_of_not_runnable (hst : ¬ ((s.beforePick force).stateOf t).Runnable)
    (hother : t ≠ s.osCurrentTask ∨
      ∃ u, s.InTable u ∧ ((s.beforePick force).stateOf u).Runnable) :
    t ≠ (schedulerSelectAndSwitch force s).osCurrentTask := by
  rintro rfl
  rcases schedulerSelectAndSwitch_cases force s with
    ⟨-, hr⟩ | ⟨-, hr, hnew⟩ | ⟨-, -, -, hr⟩ | ⟨hno, hnew⟩
  · exact hst (Or.inl hr)
  · exact hst (Or.inr (hnew.symm ▸ hr))
  · exact hst (Or.inr hr)
  · rcases hother with hne | ⟨u, hu, hrunnable⟩
    · exact hne hnew
    · exact hno u hu hrunnable

lemma schedulerSelectAndSwitch_of_not_due (hst : ¬ (s.stateOf t).Runnable)
    (hdue : ¬ (s.InTable t ∧ (s.osTasks t).Due s.schedulerTicks))
    (hother : t ≠ s.osCurrentTask ∨
      ∃ u, s.InTable u ∧ ((s.beforePick force).stateOf u).Runnable) :
    t ≠ (schedulerSelectAndSwitch force s).osCurrentTask ∧
      (schedulerSelectAndSwitch force s).osTasks t = s.osTasks t := by
  have hbefore : (s.beforePick force).osTasks t = s.osTasks t := beforePick_of_not_due hst hdue
  have hne : t ≠ (schedulerSelectAndSwitch force s).osCurrentTask := by
    refine ne_picked_of_not_runnable ?_ hother
    rwa [Sched.stateOf, hbefore]
  exact ⟨hne, (Function.update_of_ne hne ..).trans hbefore⟩

lemma beforePick_runnable (hin : s.InTable t)
    (h : (s.stateOf t).Runnable ∨ (s.osTasks t).Due s.schedulerTicks) :
    ((s.beforePick force).stateOf t).Runnable := by
  by_cases hcur : t = s.osCurrentTask ∧ force = true ∧ s.stateOf t = .running
  · obtain ⟨rfl, rfl, hrun⟩ := hcur
    exact Or.inl (Sched.beforePick_true_current hrun)
  · have hdemote : (s.demote force).osTasks t = s.osTasks t := by
      unfold Sched.demote
      split_ifs with hrun
      · have hne : t ≠ s.osCurrentTask := fun heq => hcur ⟨heq, hrun.1, heq ▸ hrun.2⟩
        exact Sched.setTask_of_ne _ hne
      · rfl
    rw [Sched.beforePick, schedulerWakeSleepersLocked_stateOf]
    split_ifs with hdue
    · exact Or.inl rfl
    · rw [hdemote, Sched.demote_ticks] at hdue
      rcases h with h | h
      · simpa [Sched.stateOf, hdemote] using h
      · exact absurd ⟨by simpa [Sched.InTable] using hin, h⟩ hdue

/-- What the switch does to a task that cannot run: nothing, unless its tick has come. -/
lemma schedulerSelectAndSwitch_not_runnable (hst : ¬ (s.stateOf t).Runnable)
    (hother : ∃ u, s.InTable u ∧ ((s.beforePick force).stateOf u).Runnable) :
    (schedulerSelectAndSwitch force s).osTasks t = s.osTasks t ∨
      (s.osTasks t).Due s.schedulerTicks ∧
        ((schedulerSelectAndSwitch force s).stateOf t).Runnable := by
  by_cases hdue : s.InTable t ∧ (s.osTasks t).Due s.schedulerTicks
  · refine Or.inr ⟨hdue.2, ?_⟩
    by_cases ht : t = (schedulerSelectAndSwitch force s).osCurrentTask
    · rw [ht, schedulerSelectAndSwitch_running]
      exact Or.inr rfl
    · rw [schedulerSelectAndSwitch_stateOf_of_ne force s ht]
      exact beforePick_runnable hdue.1 (Or.inr hdue.2)
  · exact Or.inl (schedulerSelectAndSwitch_of_not_due hst hdue (Or.inr hother)).2

lemma Disciplined.yieldFinds (h : k.Disciplined) (hcur : k.currentPc = .yield) :
    ∃ u, k.sched.InTable u ∧ ((k.sched.beforePick true).stateOf u).Runnable := by
  have hrun := h.current fun r => by simp [hcur]
  exact ⟨k.current, k.sched.current_lt, Or.inl (Sched.beforePick_true_current hrun)⟩

lemma SwitchFindsTask.switchFinds (hok : k.SwitchFindsTask .go) {r : Resume}
    (hcur : k.currentPc = .switch r) :
    ∃ u, k.sched.InTable u ∧ ((k.sched.beforePick false).stateOf u).Runnable := by
  simp only [SwitchFindsTask, hcur, Pc.FindsTask] at hok
  obtain ⟨u, hu, hsome⟩ := hok
  exact ⟨u, hu, beforePick_runnable hu hsome⟩

/-- One step and a task that cannot run: it is left, it is killed, or it is released. -/
theorem Disciplined.step_not_runnable (h : k.Disciplined) (hok : k.SwitchFindsTask m)
    (hst : ¬ (k.sched.stateOf t).Runnable) :
    (k.step m).1.sched.osTasks t = k.sched.osTasks t ∨
      (k.step m).1.sched.stateOf t = .terminated ∨
      k.Releases m t ∧ ((k.step m).1.sched.stateOf t).Runnable := by
  cases m with
  | call c =>
    refine Or.inl ?_
    simp only [Kernel.step]
    split_ifs <;> rfl
  | tick =>
    by_cases hdue : k.sched.InTable t ∧ (k.sched.osTasks t).Due (k.sched.schedulerTicks + 1)
    · refine Or.inr (Or.inr ⟨hdue.2, Or.inl ?_⟩)
      exact (schedulerTimerTick_stateOf k.sched t).trans (if_pos hdue)
    · exact Or.inl (schedulerTimerTick_of_not_due hst hdue)
  | create index parent =>
    simp only [Kernel.step]
    split_ifs
    · by_cases hti : t = index
      · subst hti
        exact Or.inr (Or.inr ⟨rfl, Or.inl (createTask_stateOf_same t parent k.sched)⟩)
      · exact Or.inl (by simp [createTask, hti])
    · exact Or.inl rfl
  | go =>
    change k.advance.sched.osTasks t = _ ∨ k.advance.sched.stateOf t = _ ∨
      _ ∧ (k.advance.sched.stateOf t).Runnable
    cases hcur : k.currentPc with
    | yield =>
      rw [advance_of_pc hcur]
      refine (schedulerSelectAndSwitch_not_runnable hst (h.yieldFinds hcur)).imp_right fun hdue => ?_
      exact Or.inr (by simpa [Releases, hcur, Pc.Releases, Pc.exec] using hdue)
    | switch next =>
      rw [advance_of_pc hcur]
      refine (schedulerSelectAndSwitch_not_runnable hst (hok.switchFinds hcur)).imp_right
        fun hdue => ?_
      exact Or.inr (by simpa [Releases, hcur, Pc.Releases, Pc.exec] using hdue)
    | _ =>
      have hyield : k.currentPc ≠ .yield := by simp [hcur]
      have hswitch : ∀ r', k.currentPc ≠ .switch r' := by simp [hcur]
      cases Pc.exec_change hyield hswitch k.sched t with
      | same hsame => exact Or.inl hsame
      | stopped _ ht =>
        -- the current task is RUNNING, so it is not the one that cannot run
        exact absurd (Or.inr (ht ▸ h.current hswitch)) hst
      | killed hterm => exact Or.inr (Or.inl hterm)
      | released hready _ hr => exact Or.inr (Or.inr ⟨hr, Or.inl hready⟩)

/-- The kernel after a list of steps from boot. -/
abbrev reached (moves : List Move) : Kernel := Machine.run Kernel.step Kernel.boot moves

end Kernel

end NeuroSpark
