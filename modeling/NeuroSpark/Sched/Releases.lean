import NeuroSpark.Sched.Sleeping
import NeuroSpark.Sched.Waiters

/-!
# When a call is over

A task that executes again after `task_sleep(n)` has slept for `n` ticks, one that executes again
after `wait_queue_wait(q)` was woken from `q`, and one that has left does not execute again. This is
so along every run in which waits find room and switches find a task, sleeps end before the counter
wraps round, and no task begins to wait with an entry left in another queue.
-/

namespace NeuroSpark

/-- A sleep ends before the counter wraps round, and a wait begins with no entry of the task in
another queue. -/
def Pc.EntersClean (s : Sched) : Pc → Prop
  | .sleep n => s.schedulerTicks.toNat + n.toNat ≤ 4294967296
  | .wait q _ => ∀ q', q' ≠ q → (s.osCurrentTask.val : Int) ∉ (s.waitQueues q').toList
  | _ => True

/-- The step that releases the task of a call comes when the call is over: its ticks have passed
`since`, or it is a wake-up of its queue. A task that has left is not released. -/
def Pc.Over (k : Kernel) (m : Move) (since : List Move) : Pc → Prop
  | .sleep n => n.toNat ≤ Kernel.ticksIn since
  | .wait q _ => m = .go ∧ k.currentPc.wakesFrom = some q
  | .exit _ => False
  | _ => True

/-! ### Tasks at rest -/

/-- The task awaits no child, and has no tick to wake at while it can run. -/
def Tcb.Rested (tcb : Tcb) : Prop :=
  tcb.waitReason = .none ∧ (tcb.state.Runnable → tcb.wakeTick = 0)

def Sched.Rested (s : Sched) : Prop := ∀ t, (s.osTasks t).Rested

namespace Sched.Rested

variable {s : Sched} {t : TaskId} {tcb : Tcb} (h : s.Rested)
include h

lemma setTask (ht : tcb.Rested) : (s.setTask t tcb).Rested := by
  intro u
  by_cases hu : u = t
  · subst hu
    rwa [Sched.setTask_same]
  · rw [Sched.setTask_of_ne _ hu]
    exact h u

lemma stop (hst : ¬ tcb.state.Runnable) (hreason : tcb.waitReason = (s.osTasks t).waitReason) :
    (s.setTask t tcb).Rested :=
  h.setTask ⟨hreason.trans (h t).1, fun hrun => absurd hrun hst⟩

lemma terminate (t : TaskId) (code : Int) :
    (s.setTask t ((s.osTasks t).terminate code)).Rested :=
  h.stop not_runnable_terminated rfl

lemma setQueue (q : WaitQueue) (r : RingBuffer Int 8) : (s.setQueue q r).Rested := h

lemma wakeParent (child : TaskId) : (NeuroSpark.wakeParent child s).Rested := by
  rcases wakeParent_cases child s with heq | ⟨p, -, heq⟩
  · rwa [heq]
  · rw [heq]
    exact h.setTask ⟨rfl, fun _ => rfl⟩

lemma wakeOne (q : WaitQueue) : (waitQueueWakeOne q s).1.Rested := by
  rcases waitQueueWakeOne_cases q s with ⟨r, hrun, -⟩ | ⟨r, u, dropped, hrun, -⟩
  · rw [hrun]
    exact h
  · rw [hrun]
    exact (h.setQueue q r).setTask ⟨(h u).1, fun _ => rfl⟩

lemma exec {pc : Pc} (hyield : pc ≠ .yield) (hswitch : ∀ r, pc ≠ .switch r) :
    (pc.exec s).1.Rested := by
  cases pc with
  | yield => exact absurd rfl hyield
  | switch r => exact absurd rfl (hswitch r)
  | sleep n | sleepTimeout n m => exact h.stop not_runnable_sleeping rfl
  | exit code => exact (h.terminate _ code).wakeParent _
  | kill id code =>
    simp only [Pc.exec, taskKillSection]
    split
    · exact h
    · split_ifs
      · exact h
      · exact h
      · exact (h.terminate _ code).wakeParent _
  | wait q r =>
    simp only [Pc.exec, waitQueueWaitSection]
    split_ifs
    · exact (h.setQueue q _).stop not_runnable_blocked rfl
    · exact h
  | waitTimeout q m r =>
    simp only [Pc.exec, waitQueueWaitTimeoutSection]
    split_ifs
    · exact (h.setQueue q _).stop not_runnable_blocked rfl
    · exact h
  | wake q | wakeAll q | signalWake e | broadcastWake e => exact h.wakeOne _
  | remaining q start m r =>
    simp only [Pc.exec]
    split_ifs <;> exact h
  | eventTest e m =>
    simp only [Pc.exec, schedEventTestSection]
    split_ifs <;> exact h
  | send c v r =>
    simp only [Pc.exec, ipcSendSection]
    split_ifs <;> exact h
  | recv c r =>
    simp only [Pc.exec, ipcRecvSection]
    split_ifs <;> exact h
  | _ => exact h

lemma wakeSleepers : (schedulerWakeSleepersLocked s).Rested := by
  intro t
  simp only [schedulerWakeSleepersLocked]
  split_ifs
  · exact ⟨(h t).1, fun _ => rfl⟩
  · exact h t

lemma timerTick : (schedulerTimerTick s).Rested := by
  have hwoken : (schedulerWakeSleepersLocked
      { s with schedulerTicks := s.schedulerTicks + 1 }).Rested := wakeSleepers h
  simp only [schedulerTimerTick]
  set w := schedulerWakeSleepersLocked { s with schedulerTicks := s.schedulerTicks + 1 }
  have hcounted : w.countWaiting.Rested := by
    intro t
    simp only [Sched.countWaiting]
    split_ifs <;> exact hwoken t
  split_ifs
  · exact hcounted.setTask (hcounted _)
  · exact hcounted

lemma beforePick (force : Bool) : (s.beforePick force).Rested := by
  refine wakeSleepers ?_
  unfold Sched.demote
  split_ifs with hrun
  · exact h.setTask ⟨(h _).1, fun _ => (h _).2 (Or.inr hrun.2)⟩
  · exact h

lemma switch {force : Bool}
    (hother : ∃ u, s.InTable u ∧ ((s.beforePick force).stateOf u).Runnable) :
    (schedulerSelectAndSwitch force s).Rested := by
  intro t
  by_cases ht : t = (schedulerSelectAndSwitch force s).osCurrentTask
  · have hrun : ((s.beforePick force).stateOf t).Runnable := by
      by_contra hst
      exact Kernel.ne_picked_of_not_runnable hst (Or.inr hother) ht
    have hentry : (schedulerSelectAndSwitch force s).osTasks t =
        ((s.beforePick force).osTasks t).run := by
      subst ht
      exact Function.update_self ..
    rw [hentry]
    exact ⟨(h.beforePick force t).1, fun _ => (h.beforePick force t).2 hrun⟩
  · have hentry : (schedulerSelectAndSwitch force s).osTasks t = (s.beforePick force).osTasks t :=
      Function.update_of_ne ht ..
    rw [hentry]
    exact h.beforePick force t

end Sched.Rested

namespace Kernel

variable {k : Kernel} {m : Move} {t : TaskId}

lemma Disciplined.rested_step (h : k.Disciplined) (hok : k.SwitchFindsTask m)
    (hs : k.sched.Rested) : (k.step m).1.sched.Rested := by
  cases m with
  | call c =>
    simp only [Kernel.step]
    split_ifs <;> exact hs
  | tick => exact hs.timerTick
  | create index parent =>
    simp only [Kernel.step]
    split_ifs
    · intro t
      by_cases ht : t = index
      · simp [ht, createTask, createTaskTcb, Tcb.Rested]
      · simpa [createTask, ht] using hs t
    · exact hs
  | go =>
    change k.advance.sched.Rested
    cases hcur : k.currentPc with
    | yield =>
      rw [advance_of_pc hcur]
      exact hs.switch (h.yieldFinds hcur)
    | switch next =>
      rw [advance_of_pc hcur]
      exact hs.switch (hok.switchFinds hcur)
    | _ => exact hs.exec (by simp [hcur]) (by simp [hcur])

/-! ### What a task that cannot run is left with -/

/-- No step puts a task that cannot run into a queue. -/
lemma Disciplined.step_entries (h : k.Disciplined) (hst : ¬ (k.sched.stateOf t).Runnable)
    (m : Move) {q : WaitQueue}
    (hmem : (t.val : Int) ∈ ((k.step m).1.sched.waitQueues q).toList) :
    (t.val : Int) ∈ (k.sched.waitQueues q).toList := by
  cases m with
  | call c | create index parent =>
    simp only [Kernel.step] at hmem
    split_ifs at hmem <;> exact hmem
  | tick =>
    change _ ∈ ((schedulerTimerTick k.sched).waitQueues q).toList at hmem
    rwa [(WaitRun.schedulerTimerTick_frame k.sched).1] at hmem
  | go =>
    change _ ∈ ((k.currentPc.exec k.sched).1.waitQueues q).toList at hmem
    cases hblocks : k.currentPc.blocksOn k.sched with
    | some q' =>
      obtain ⟨hqueue, hother, -⟩ := Pc.exec_of_blocksOn hblocks
      by_cases hq : q = q'
      · subst hq
        rw [hqueue, List.mem_append, List.mem_singleton] at hmem
        refine hmem.resolve_right fun heq => hst (Or.inr ?_)
        -- the entry is the current task's, which is RUNNING
        have ht : t = k.current := entry_injective heq
        rw [ht]
        exact h.current fun r hpc => by simp [hpc, Pc.blocksOn] at hblocks
      · rwa [hother q hq] at hmem
    | none =>
      cases hwakes : k.currentPc.wakesFrom with
      | none => rwa [(Pc.exec_blocked hblocks hwakes).1] at hmem
      | some q' =>
        rw [Pc.exec_of_wakesFrom hwakes] at hmem
        by_cases hq : q = q'
        · subst hq
          rcases waitQueueWakeOne_cases q k.sched with
            ⟨r, hrun, hnil, -⟩ | ⟨r, u, dropped, hrun, hlist, -⟩
          · rw [hrun] at hmem
            simp [hnil] at hmem
          · rw [hrun] at hmem
            rw [hlist]
            exact List.mem_append_right _ (List.mem_cons_of_mem _ (by simpa using hmem))
        · rcases waitQueueWakeOne_cases q' k.sched with ⟨r, hrun, -⟩ | ⟨r, u, dropped, hrun, -⟩ <;>
            rw [hrun] at hmem <;> simpa [Sched.setQueue, hq] using hmem

/-- A task that could not run and can now was released in between, from the entry with which it
stopped and the queues it was in, or else its slot was given to a new task. -/
lemma Disciplined.exists_release (h : k.Disciplined) {moves : List Move}
    (hok : Machine.Runs SwitchFindsTask Kernel.step k moves)
    (hst : ¬ (k.sched.stateOf t).Runnable)
    (hend : ((Machine.run Kernel.step k moves).sched.stateOf t).Runnable) :
    ∃ c m d, moves = c ++ m :: d ∧
      (Machine.run Kernel.step k c).Releases m t ∧
      ((Machine.run Kernel.step k (c ++ [m])).sched.stateOf t).Runnable ∧
      ((Machine.run Kernel.step k c).sched.osTasks t = k.sched.osTasks t ∧
          (∀ q, (t.val : Int) ∈ ((Machine.run Kernel.step k c).sched.waitQueues q).toList →
            (t.val : Int) ∈ (k.sched.waitQueues q).toList) ∨
        (Machine.run Kernel.step k c).sched.stateOf t = .terminated) := by
  induction moves generalizing k with
  | nil => exact absurd hend hst
  | cons m moves ih =>
    obtain ⟨hm, hrest⟩ := hok
    rcases h.step_not_runnable hm hst with hsame | hterm | ⟨hrel, hrun⟩
    · have hst' : ¬ ((k.step m).1.sched.stateOf t).Runnable := by
        rw [Sched.stateOf, hsame]
        exact hst
      obtain ⟨c, m', d, rfl, hrel, hrun, hentry⟩ := ih (h.step hm) hrest hst' hend
      refine ⟨m :: c, m', d, rfl, hrel, hrun, hentry.imp_left fun hheld => ?_⟩
      exact ⟨hheld.1.trans hsame, fun q hmem => h.step_entries hst m (hheld.2 q hmem)⟩
    · have hst' : ¬ ((k.step m).1.sched.stateOf t).Runnable := by
        rw [hterm]
        exact not_runnable_terminated
      obtain ⟨c, m', d, rfl, hrel, hrun, hentry⟩ := ih (h.step hm) hrest hst' hend
      refine ⟨m :: c, m', d, rfl, hrel, hrun, Or.inr (hentry.elim (fun heq => ?_) id)⟩
      exact (congrArg Tcb.state heq.1).trans hterm
    · exact ⟨[], m, moves, rfl, hrel, hrun, Or.inl ⟨rfl, fun _ hmem => hmem⟩⟩

/-- A task is released by a new one in its slot, because its tick has come, from a queue in which it
waits, or because its child leaves. -/
lemma Releases.cases (h : k.Releases m t) : (∃ parent, m = .create t parent) ∨
    (k.sched.osTasks t).Due (k.step m).1.sched.schedulerTicks ∨
    m = .go ∧ (∃ q, k.currentPc.wakesFrom = some q ∧ k.sched.WaitsIn q t) ∨
    ∃ child, k.sched.AwaitsChild t child := by
  cases m with
  | call c => exact h.elim
  | create index parent => exact Or.inl ⟨parent, by rw [show t = index from h]⟩
  | tick => exact Or.inr (Or.inl (schedulerTimerTick_ticks k.sched ▸ h))
  | go =>
    simp only [Releases] at h
    change _ ∨ Tcb.Due _ k.advance.sched.schedulerTicks ∨ _
    cases hcur : k.currentPc with
    | yield | switch next =>
      rw [hcur] at h
      rw [advance_of_pc hcur]
      refine Or.inr (Or.inl ?_)
      change Tcb.Due _ (schedulerSelectAndSwitch _ k.sched).schedulerTicks
      rw [schedulerSelectAndSwitch_ticks]
      exact h
    | wake q | wakeAll q | signalWake e | broadcastWake e =>
      rw [hcur] at h
      exact Or.inr (Or.inr (Or.inl ⟨rfl, _, rfl, h⟩))
    | exit code =>
      rw [hcur] at h
      exact Or.inr (Or.inr (Or.inr ⟨_, h⟩))
    | kill id code =>
      rw [hcur] at h
      obtain ⟨child, -, hawaits⟩ := h
      exact Or.inr (Or.inr (Or.inr ⟨child, hawaits⟩))
    | _ =>
      rw [hcur] at h
      exact h.elim

lemma Releases.create_of_terminated (h : k.Releases m t)
    (hst : k.sched.stateOf t = .terminated) : ∃ parent, m = .create t parent := by
  rcases h.cases with hcreate | ⟨hst', -⟩ | ⟨-, q, -, hst', -⟩ | ⟨child, hst', -⟩
  · exact hcreate
  · simp [hst] at hst'
  · simp [hst] at hst'
  · simp [hst] at hst'

/-! ### The clock -/

lemma step_ticks (k : Kernel) (m : Move) : (k.step m).1.sched.schedulerTicks =
    if isTick m then k.sched.schedulerTicks + 1 else k.sched.schedulerTicks := by
  cases m with
  | tick => exact schedulerTimerTick_ticks k.sched
  | call c | create index parent =>
    simp only [Kernel.step]
    split_ifs <;> first | rfl | contradiction
  | go =>
    change k.advance.sched.schedulerTicks = k.sched.schedulerTicks
    cases hcur : k.currentPc with
    | yield | switch next =>
      rw [advance_of_pc hcur]
      exact schedulerSelectAndSwitch_ticks _ k.sched
    | _ => exact (Pc.exec_frame (by simp [hcur]) (by simp [hcur]) k.sched).2.2

lemma run_ticks (k : Kernel) (moves : List Move) :
    (Machine.run Kernel.step k moves).sched.schedulerTicks.toNat =
      (k.sched.schedulerTicks.toNat + ticksIn moves) % 4294967296 := by
  induction moves generalizing k with
  | nil => exact (Nat.mod_eq_of_lt k.sched.schedulerTicks.toNat_lt).symm
  | cons m moves ih =>
    rw [Machine.run_cons, ih, step_ticks]
    cases htick : isTick m with
    | true =>
      obtain rfl : m = .tick := by cases m <;> first | rfl | cases htick
      rw [ticksIn_tick, if_pos rfl, UInt32.toNat_add]
      change ((_ + 1) % 4294967296 + _) % _ = _
      omega
    | false => rw [ticksIn_of_not_tick htick, if_neg (by simp)]

/-- The task that has slept from `s` on is due only when its ticks have passed. -/
lemma slept {s : Sched} {n : UInt32} (hclean : s.schedulerTicks.toNat + n.toNat ≤ 4294967296)
    {tcb : Tcb} (hwake : tcb.wakeTick = s.schedulerTicks + n) {ticks : UInt32} {count : Nat}
    (hticks : ticks.toNat = (s.schedulerTicks.toNat + count) % 4294967296)
    (hdue : tcb.Due ticks) : n.toNat ≤ count := by
  obtain ⟨-, hzero, hle⟩ := hdue
  rw [UInt32.le_iff_toNat_le, hwake, UInt32.toNat_add, hticks] at hle
  have hne : (s.schedulerTicks.toNat + n.toNat) % 4294967296 ≠ 0 := by
    intro h
    exact hzero (hwake.trans (UInt32.toNat_inj.1 ((UInt32.toNat_add ..).trans h)))
  change (_ + _) % 4294967296 ≤ _ at hle
  omega

/-- No wait begins or ends wrongly: waits find room and no old entry, switches find a task, and
sleeps end before the counter wraps round. -/
def RunsClean (k : Kernel) (m : Move) : Prop :=
  k.SwitchFindsTask m ∧ match m with
    | .go => k.currentPc.EntersClean k.sched
    | _ => True

/-- The task that the section stopped is released when the call is over. -/
lemma over_of_released {k' : Kernel} {pc : Pc} {since : List Move} (h : k.Disciplined)
    (hs : k.sched.Rested) (hclean : k.RunsClean .go) (hpc : k.currentPc = pc)
    (hsusp : pc.Suspends) (hs' : k'.sched.Rested)
    (hticks : (k'.step m).1.sched.schedulerTicks.toNat =
      (k.sched.schedulerTicks.toNat + ticksIn since) % 4294967296)
    (hentry : k'.sched.osTasks k.current = k.advance.sched.osTasks k.current)
    (hqueues : ∀ q, (k.current.val : Int) ∈ (k'.sched.waitQueues q).toList →
      (k.current.val : Int) ∈ (k.advance.sched.waitQueues q).toList)
    (hrel : k'.Releases m k.current) :
    (∃ parent, m = .create k.current parent) ∨ pc.Over k' m since := by
  obtain ⟨hfinds, henters⟩ := hclean
  simp only [SwitchFindsTask, hpc] at hfinds
  simp only [hpc] at henters
  rw [advance_of_pc hpc] at hentry hqueues
  cases pc with
  | sleep n =>
    have hst : k'.sched.stateOf k.current = .sleeping := by
      rw [Sched.stateOf, hentry]
      simp [Pc.exec, taskSleepSection]
    rcases hrel.cases with hcreate | hdue | ⟨-, q, -, hst', -⟩ | ⟨child, hst', -⟩
    · exact Or.inl hcreate
    · refine Or.inr (slept henters ?_ hticks hdue)
      rw [hentry]
      simp [Pc.exec, taskSleepSection]
    · simp [hst] at hst'
    · simp [hst] at hst'
  | wait q r =>
    have hroom : (k.sched.waitQueues q).count < 8 := hfinds
    have hblocks : (Pc.wait q r).blocksOn k.sched = some q := if_pos hroom
    rcases hrel.cases with hcreate | ⟨-, hwake, -⟩ | ⟨hgo, q', hwakes, -, hmem⟩ | ⟨child, -, hchild, -⟩
    · exact Or.inl hcreate
    · have hrun : k.sched.stateOf k.current = .running := h.current fun r => by simp [hpc]
      rw [hentry] at hwake
      exact absurd (by simpa [Pc.exec, waitQueueWaitSection, hroom] using
        (hs k.current).2 (Or.inr hrun)) hwake
    · -- the queue in which the task is found is the one on which it waits
      have hq : q' = q := by
        by_contra hne
        have hbefore := hqueues q' hmem
        rw [(Pc.exec_of_blocksOn hblocks).2.1 q' hne] at hbefore
        exact henters q' hne hbefore
      exact Or.inr ⟨hgo, hq ▸ hwakes⟩
    · rw [(hs' k.current).1] at hchild
      cases hchild
  | exit code =>
    refine Or.inl (hrel.create_of_terminated ?_)
    rw [Sched.stateOf, hentry]
    exact taskExitSection_stateOf code k.sched
  | sleepTimeout | waitTimeout => exact Or.inr True.intro
  | _ => exact hsusp.elim

lemma boot_rested : Kernel.boot.sched.Rested := fun _ => ⟨rfl, fun _ => rfl⟩

end Kernel

open Kernel

/-- Along a run from boot in which waits find room and no old entry, switches find a task and sleeps
end before the counter wraps round: no step makes a task that sleeps, waits or has left runnable
without releasing it; and when a task executes again after a section that stopped it, its slot was
given away, or it was released from the entry that section left when the call was over. After
`task_exit_with_code` only the former is possible. -/
theorem resumed_only_when_released {moves : List Move}
    (hok : Machine.Runs RunsClean Kernel.step Kernel.boot moves) :
    (∀ a m b t, moves = a ++ m :: b →
      ¬ ((reached a).sched.stateOf t).Runnable → ((reached (a ++ [m])).sched.stateOf t).Runnable →
      (reached a).Releases m t) ∧
    (∀ a b t pc, moves = a ++ .go :: b →
      (reached a).current = t → (reached a).currentPc = pc → pc.Suspends →
      (reached moves).current = t → (reached moves).Executing →
      ∃ c m d, b = c ++ m :: d ∧ (reached (a ++ .go :: c)).Releases m t ∧
        ((reached (a ++ .go :: c ++ [m])).sched.stateOf t).Runnable ∧
        ((∃ parent, m = .create t parent) ∨
          (reached (a ++ .go :: c)).sched.osTasks t = (reached (a ++ [.go])).sched.osTasks t ∧
          pc.Over (reached (a ++ .go :: c)) m (c ++ [m]))) := by
  have hfinds := hok.mono fun k m hm => hm.1
  have hinv : ∀ pre, pre <+: moves → (reached pre).Disciplined ∧ (reached pre).sched.Rested := by
    rintro pre ⟨rest, rfl⟩
    refine Machine.run_invariant (I := fun k => k.Disciplined ∧ k.sched.Rested)
      (fun k m hk hm => ⟨hk.1.step hm, hk.1.rested_step hm hk.2⟩)
      ⟨boot_disciplined, boot_rested⟩ ((Machine.runs_append _ _ _ pre rest).1 hfinds).1
  constructor
  · rintro a m b t rfl hst hst'
    obtain ⟨-, hm, -⟩ := (Machine.runs_append _ _ _ a (m :: b)).1 hfinds
    rw [reached, Machine.run_append] at hst'
    rcases (hinv a ⟨_, rfl⟩).1.step_not_runnable hm hst with hsame | hterm | ⟨hrel, -⟩
    · exact absurd (by simpa [Sched.stateOf, hsame] using hst') hst
    · exact absurd (by simpa [hterm] using hst') not_runnable_terminated
    · exact hrel
  · rintro a b t pc rfl rfl hpc hsusp hend hexec
    obtain ⟨-, hm, hrest⟩ := (Machine.runs_append _ _ _ a (.go :: b)).1 hok
    obtain ⟨hdis, hrested⟩ := hinv a ⟨_, rfl⟩
    have hafter : ∀ c, reached (a ++ .go :: c) =
        Machine.run Kernel.step ((reached a).step .go).1 c := by
      intro c
      rw [reached, Machine.run_append]
      rfl
    have hrunning := (hinv _ (List.prefix_refl _)).1.current hexec
    rw [hend, hafter] at hrunning
    obtain ⟨c, m, d, rfl, hrel, hrun, hentry⟩ :=
      (hdis.step hm.1).exists_release (hrest.mono fun k m hm => hm.1)
        (exec_not_runnable hm.1 (hpc.symm ▸ hsusp)) (Or.inr hrunning)
    have hticks := run_ticks ((reached a).step .go).1 (c ++ [m])
    rw [step_ticks _ .go, if_neg (by decide)] at hticks
    rw [← hafter] at hrel hrun hentry hticks
    rw [List.append_cons, ← List.append_assoc, ← List.append_cons] at hrun hticks
    refine ⟨c, m, d, rfl, hrel, hrun, ?_⟩
    rcases hentry with ⟨heq, hqueues⟩ | hterm
    · refine (over_of_released hdis hrested hm hpc hsusp (hinv _ ⟨m :: d, by simp⟩).2 ?_ heq hqueues
        hrel).imp_right fun hover => ⟨by rw [hafter []]; exact heq, hover⟩
      rw [reached, Machine.run_append] at hticks
      exact hticks
    · exact Or.inl (hrel.create_of_terminated hterm)

/-- Task 0 sleeps for a tick, task 1 takes over, the tick comes and task 1 yields. -/
def sleepRun : List Move :=
  [.create 1 (-1), .call (.taskSleep 1), .go, .go, .tick, .call .taskYield, .go]

/-- A sleep of one tick, next to a task that yields. -/
theorem resumed_only_when_released_sleepRun :
    Machine.Runs RunsClean Kernel.step Kernel.boot sleepRun ∧
      ∃ c m d, [.go, .tick, .call .taskYield, .go] = c ++ m :: d ∧
        (reached ([.create 1 (-1), .call (.taskSleep 1)] ++ .go :: c)).Releases m 0 := by
  have hok : Machine.Runs RunsClean Kernel.step Kernel.boot sleepRun :=
    ⟨⟨True.intro, True.intro⟩, ⟨True.intro, True.intro⟩, ⟨by decide, (by decide : 0 + 1 ≤ 4294967296)⟩,
      ⟨by decide, True.intro⟩, ⟨True.intro, True.intro⟩, ⟨True.intro, True.intro⟩,
      ⟨by decide, True.intro⟩, True.intro⟩
  have hown : (reached sleepRun).currentPc = .own := by decide
  obtain ⟨c, m, d, hsplit, hrel, -⟩ := (resumed_only_when_released hok).2
    [.create 1 (-1), .call (.taskSleep 1)] [.go, .tick, .call .taskYield, .go] 0 (.sleep 1) rfl
    rfl rfl True.intro (by decide) fun r => by simp [hown]
  exact ⟨hok, c, m, d, hsplit, hrel⟩

/-- Alone, task 0 has the processor back from `task_sleep(5)` at tick 0, and from
`task_exit_with_code`. -/
theorem resumed_without_release :
    ((reached [.call (.taskSleep 5), .go]).sched.stateOf 0 = .sleeping ∧
      ¬ (reached [.call (.taskSleep 5), .go]).Releases .go 0 ∧
      (reached [.call (.taskSleep 5), .go, .go]).sched.stateOf 0 = .running ∧
      (reached [.call (.taskSleep 5), .go, .go]).currentPc = .own) ∧
    (reached [.call (.taskExitWithCode 0), .go]).sched.stateOf 0 = .terminated ∧
      (reached [.call (.taskExitWithCode 0), .go, .go]).sched.stateOf 0 = .running := by
  refine ⟨⟨rfl, ?_, by decide, by decide⟩, by decide, by decide⟩
  rintro ⟨-, -, hle⟩
  exact absurd hle (by decide)

end NeuroSpark
