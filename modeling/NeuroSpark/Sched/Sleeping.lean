import NeuroSpark.Sched.Resuming

/-!
# Sleeping for a number of ticks

`task_sleep` stores the tick at which the task is to wake. The timer compares it with the counter as
numbers, and takes zero for "never". A sleeper wakes on time exactly when the counter does not wrap
round before that tick, and somebody else takes the processor.
-/

namespace NeuroSpark

/-! ### Tasks that are not BLOCKED -/

section

variable {s : Sched} {t : TaskId}

lemma wakeParent_of_not_blocked (child : TaskId) (hst : s.stateOf t ≠ .blocked) :
    (wakeParent child s).osTasks t = s.osTasks t := by
  rcases wakeParent_cases child s with heq | ⟨p, hp, heq⟩
  · rw [heq]
  · have hne : t ≠ p := by
      rintro rfl
      exact hst hp.1
    rw [heq, Sched.setTask_of_ne _ hne]

lemma waitQueueWakeOne_of_not_blocked (q : WaitQueue) (hst : s.stateOf t ≠ .blocked) :
    (waitQueueWakeOne q s).1.osTasks t = s.osTasks t := by
  rcases waitQueueWakeOne_cases q s with ⟨r, hrun, -⟩ | ⟨r, u, dropped, hrun, -, -, -, hu⟩
  · rw [hrun]
    rfl
  · have hne : t ≠ u := by
      rintro rfl
      exact hst hu
    rw [hrun, Sched.setTask_of_ne _ hne]
    rfl

/-- The section kills the task. -/
def Pc.Kills (s : Sched) (t : TaskId) : Pc → Prop
  | .kill id _ => s.taskAt id = some t
  | _ => False

/-- The other sections of another task leave a task as it is that is not BLOCKED and not killed. -/
lemma Pc.exec_of_not_blocked {pc : Pc} (hyield : pc ≠ .yield) (hswitch : ∀ r, pc ≠ .switch r)
    (hne : t ≠ s.osCurrentTask) (hst : s.stateOf t ≠ .blocked) (hkill : ¬ pc.Kills s t) :
    (pc.exec s).1.osTasks t = s.osTasks t := by
  have hterminate : ∀ (child : TaskId) (code : Int), t ≠ child →
      (wakeParent child (s.setTask child ((s.osTasks child).terminate code))).osTasks t =
        s.osTasks t := by
    intro child code hchild
    rw [wakeParent_of_not_blocked child (by simpa [Sched.stateOf, hchild] using hst),
      Sched.setTask_of_ne _ hchild]
  cases pc with
  | yield => exact absurd rfl hyield
  | switch r => exact absurd rfl (hswitch r)
  | sleep | sleepTimeout => exact Sched.setTask_of_ne _ hne
  | exit code => exact hterminate _ code hne
  | kill id code =>
    simp only [exec]
    cases hid : s.taskAt id with
    | none => rfl
    | some child =>
      have hchild : t ≠ child := by
        rintro rfl
        exact hkill hid
      simp only [taskKillSection]
      split_ifs
      · rfl
      · rfl
      · exact hterminate child code hchild
  | wait q r =>
    simp only [exec, waitQueueWaitSection]
    split_ifs
    · exact Sched.setTask_of_ne _ hne
    · rfl
  | waitTimeout q m r =>
    simp only [exec, waitQueueWaitTimeoutSection]
    split_ifs
    · exact Sched.setTask_of_ne _ hne
    · rfl
  | remaining q start m r =>
    simp only [exec]
    split_ifs <;> rfl
  | wake q => exact waitQueueWakeOne_of_not_blocked q hst
  | wakeAll q => exact waitQueueWakeOne_of_not_blocked q hst
  | signalWake | broadcastWake => exact waitQueueWakeOne_of_not_blocked _ hst
  | eventTest e m =>
    simp only [exec, schedEventTestSection]
    split_ifs <;> rfl
  | send c v r =>
    simp only [exec, ipcSendSection]
    split_ifs <;> rfl
  | recv c r =>
    simp only [exec, ipcRecvSection]
    split_ifs <;> rfl
  | _ => rfl

@[simp] lemma schedulerSelectAndSwitch_ticks (force : Bool) (s : Sched) :
    (schedulerSelectAndSwitch force s).schedulerTicks = s.schedulerTicks := s.demote_ticks force

@[simp] lemma schedulerTimerTick_ticks (s : Sched) :
    (schedulerTimerTick s).schedulerTicks = s.schedulerTicks + 1 := by
  simp only [schedulerTimerTick]
  split_ifs <;> rfl

@[simp] lemma schedulerTimerTick_osTaskCount (s : Sched) :
    (schedulerTimerTick s).osTaskCount = s.osTaskCount := by
  simp only [schedulerTimerTick]
  split_ifs <;> rfl

end

namespace Kernel

/-! ### Sleepers -/

/-- The step is a timer interrupt. -/
def isTick : Move → Bool
  | .tick => true
  | _ => false

def ticksIn (moves : List Move) : Nat := moves.countP isTick

lemma ticksIn_tick (moves : List Move) : ticksIn (.tick :: moves) = ticksIn moves + 1 :=
  List.countP_cons_of_pos rfl

lemma ticksIn_of_not_tick {m : Move} (hm : isTick m = false) (moves : List Move) :
    ticksIn (m :: moves) = ticksIn moves := List.countP_cons_of_neg (by simp [hm])

lemma ticksIn_concat_tick (moves : List Move) : ticksIn (moves ++ [.tick]) = ticksIn moves + 1 :=
  List.countP_append

/-- The step does not kill the task. -/
def Spares (t : TaskId) (k : Kernel) (m : Move) : Prop :=
  match m with
  | .go => ¬ k.currentPc.Kills k.sched t
  | _ => True

/-- Another task of the table can run, or is due. -/
def OtherCanRun (k : Kernel) : Prop :=
  ∃ u, u ≠ k.current ∧ k.sched.InTable u ∧
    ((k.sched.stateOf u).Runnable ∨ (k.sched.osTasks u).Due k.sched.schedulerTicks)

/-- The current task is about to run the section of `task_sleep(n)`. Whatever happens then, unless
it is killed, it is SLEEPING as long as fewer than `n` ticks have come, and the `n`-th tick makes it
READY. -/
def SleepsOnTime (k : Kernel) (n : UInt32) : Prop :=
  ∀ moves, Machine.Runs (Spares k.current) Kernel.step (k.step .go).1 moves →
    (ticksIn moves < n.toNat →
      (Machine.run Kernel.step (k.step .go).1 moves).sched.stateOf k.current = .sleeping) ∧
    ∀ pre, moves = pre ++ [.tick] → ticksIn moves = n.toNat →
      (Machine.run Kernel.step (k.step .go).1 moves).sched.stateOf k.current = .ready

/-- The task sleeps until a tick that is `left` ticks away. If it has not given the processor away
yet, somebody can take it. -/
structure Asleep (k : Kernel) (t : TaskId) (left : Nat) : Prop where
  table : k.sched.InTable t
  state : k.sched.stateOf t = .sleeping
  wakeTick : (k.sched.osTasks t).wakeTick.toNat = k.sched.schedulerTicks.toNat + left
  place : t ≠ k.current ∨ k.currentPc = .switch .own ∧ k.OtherCanRun

variable {k : Kernel} {t : TaskId} {left : Nat}

lemma Asleep.not_due (h : k.Asleep t (left + 1)) :
    ¬ (k.sched.osTasks t).Due k.sched.schedulerTicks := by
  rintro ⟨-, -, hle⟩
  have hle' := UInt32.le_iff_toNat_le.1 hle
  have := h.wakeTick
  omega

lemma Asleep.not_runnable (h : k.Asleep t left) : ¬ (k.sched.stateOf t).Runnable := by
  rw [h.state]
  exact not_runnable_sleeping

lemma Asleep.next_tick (h : k.Asleep t (left + 1)) :
    (k.sched.schedulerTicks + 1).toNat = k.sched.schedulerTicks.toNat + 1 := by
  have hw := h.wakeTick
  have hlt := (k.sched.osTasks t).wakeTick.toNat_lt
  rw [UInt32.toNat_add]
  exact Nat.mod_eq_of_lt (by change _ + 1 < _; omega)

lemma OtherCanRun.tick (h : k.OtherCanRun)
    (hticks : (k.sched.schedulerTicks + 1).toNat = k.sched.schedulerTicks.toNat + 1) :
    (k.step .tick).1.OtherCanRun := by
  obtain ⟨u, hne, hin, hu⟩ := h
  refine ⟨u, ?_, ?_, Or.inl ?_⟩
  · rwa [step_tick_current]
  · simpa [Kernel.step, Sched.InTable] using hin
  · change ((schedulerTimerTick k.sched).stateOf u).Runnable
    rw [schedulerTimerTick_stateOf]
    split_ifs with hdue
    · exact Or.inl rfl
    · rcases hu with hu | ⟨hst, hzero, hle⟩
      · exact hu
      · refine absurd ⟨hin, hst, hzero, ?_⟩ hdue
        rw [UInt32.le_iff_toNat_le] at hle ⊢
        omega

lemma Asleep.tick (h : k.Asleep t (left + 2)) : (k.step .tick).1.Asleep t (left + 1) := by
  have hticks := h.next_tick
  have hdue : ¬ (k.sched.osTasks t).Due (k.sched.schedulerTicks + 1) := by
    rintro ⟨-, -, hle⟩
    have hle' := UInt32.le_iff_toNat_le.1 hle
    have := h.wakeTick
    omega
  have hsame : (k.step .tick).1.sched.osTasks t = k.sched.osTasks t :=
    schedulerTimerTick_of_not_due h.not_runnable fun hin => hdue hin.2
  have hclock : (k.step .tick).1.sched.schedulerTicks = k.sched.schedulerTicks + 1 :=
    schedulerTimerTick_ticks _
  refine ⟨?_, ?_, ?_, ?_⟩
  · simpa [Kernel.step, Sched.InTable] using h.table
  · rw [Sched.stateOf, hsame]
    exact h.state
  · rw [hsame, hclock, hticks, h.wakeTick]
    omega
  · rw [step_tick_current]
    rcases h.place with hne | ⟨hpc, hother⟩
    · exact Or.inl hne
    · refine Or.inr ⟨?_, hother.tick hticks⟩
      rw [currentPc, step_tick_current]
      exact hpc

lemma Asleep.last_tick (h : k.Asleep t 1) : (k.step .tick).1.sched.stateOf t = .ready := by
  have hticks := h.next_tick
  have hw := h.wakeTick
  change (schedulerTimerTick k.sched).stateOf t = _
  rw [schedulerTimerTick_stateOf, if_pos]
  refine ⟨h.table, Or.inl h.state, fun hzero => ?_, ?_⟩
  · rw [hzero] at hw
    change 0 = _ at hw
    omega
  · rw [UInt32.le_iff_toNat_le]
    omega

/-- No section wakes a sleeper that is not due, and the switch finds somebody else. -/
lemma Asleep.go (h : k.Asleep t (left + 1)) (hspares : Spares t k .go) :
    (k.step .go).1.Asleep t (left + 1) := by
  change k.advance.Asleep t (left + 1)
  have hswitched : ∀ {force : Bool} {pc : Pc},
      (t ≠ k.current ∨ ∃ u, k.sched.InTable u ∧ ((k.sched.beforePick force).stateOf u).Runnable) →
      k.advance = ⟨schedulerSelectAndSwitch force k.sched, Function.update k.pc k.current pc⟩ →
      k.advance.Asleep t (left + 1) := by
    intro force pc hother hadv
    obtain ⟨hne, hsame⟩ := schedulerSelectAndSwitch_of_not_due h.not_runnable
      (fun hin => h.not_due hin.2) hother
    rw [hadv]
    refine ⟨?_, ?_, ?_, Or.inl hne⟩
    · simpa [Sched.InTable] using h.table
    · rw [Sched.stateOf, hsame]
      exact h.state
    · rw [hsame, schedulerSelectAndSwitch_ticks]
      exact h.wakeTick
  rcases h.place with hne | ⟨hpc, u, -, hu, hrun⟩
  · cases hcur : k.currentPc with
    | yield | switch => exact hswitched (Or.inl hne) (advance_of_pc hcur)
    | _ =>
      have hyield : k.currentPc ≠ .yield := by simp [hcur]
      have hswitch : ∀ r', k.currentPc ≠ .switch r' := by simp [hcur]
      have hsame : k.advance.sched.osTasks t = k.sched.osTasks t :=
        Pc.exec_of_not_blocked hyield hswitch hne (by simp [h.state]) hspares
      obtain ⟨hcurrent, hcount, hclock⟩ := Pc.exec_frame hyield hswitch k.sched
      refine ⟨?_, ?_, ?_, Or.inl ?_⟩
      · simpa [Kernel.advance, Sched.InTable, hcount] using h.table
      · rw [Sched.stateOf, hsame]
        exact h.state
      · rw [hsame, h.wakeTick]
        simp [Kernel.advance, hclock]
      · simpa [Kernel.advance, Kernel.current, hcurrent] using hne
  · exact hswitched (Or.inr ⟨u, hu, beforePick_runnable hu hrun⟩) (advance_of_pc hpc)

lemma Asleep.step (h : k.Asleep t (left + 1)) {m : Move} (hm : isTick m = false)
    (hspares : Spares t k m) : (k.step m).1.Asleep t (left + 1) := by
  cases m with
  | tick => cases hm
  | go => exact h.go hspares
  | call c =>
    simp only [Kernel.step]
    split_ifs with hown
    · refine ⟨h.table, h.state, h.wakeTick, Or.inl ?_⟩
      exact h.place.resolve_right fun hpc => by simp [hown] at hpc
    · exact h
  | create index parent =>
    simp only [Kernel.step]
    split_ifs with hslot
    · obtain ⟨hown, -, hfree⟩ := hslot
      have hne : t ≠ index := by
        rintro rfl
        rcases hfree with hterm | hend
        · simp [h.state] at hterm
        · exact absurd h.table (by simp [Sched.InTable, hend])
      have hsame : (createTask index parent k.sched).osTasks t = k.sched.osTasks t := by
        simp [createTask, hne]
      refine ⟨lt_of_lt_of_le h.table (le_max_left _ _), ?_, ?_, Or.inl ?_⟩
      · rw [Sched.stateOf, hsame]
        exact h.state
      · rw [hsame]
        exact h.wakeTick
      · exact h.place.resolve_right fun hpc => by simp [hown] at hpc
    · exact h

lemma Asleep.run (h : k.Asleep t left) {moves : List Move}
    (hruns : Machine.Runs (Spares t) Kernel.step k moves) (hlt : ticksIn moves < left) :
    (Machine.run Kernel.step k moves).Asleep t (left - ticksIn moves) := by
  induction moves generalizing k left with
  | nil => exact h
  | cons m moves ih =>
    obtain ⟨hm, hrest⟩ := hruns
    cases htick : isTick m with
    | true =>
      obtain rfl : m = .tick := by
        cases m <;> first | rfl | cases htick
      rw [ticksIn_tick] at hlt ⊢
      obtain ⟨l, rfl⟩ : ∃ l, left = l + 2 := ⟨left - 2, by omega⟩
      have hleft : l + 2 - (ticksIn moves + 1) = l + 1 - ticksIn moves := by omega
      rw [hleft]
      exact ih h.tick hrest (by omega)
    | false =>
      rw [ticksIn_of_not_tick htick] at hlt ⊢
      obtain ⟨l, rfl⟩ : ∃ l, left = l + 1 := ⟨left - 1, by omega⟩
      exact ih (h.step htick hm) hrest hlt

/-! ### Going to sleep -/

variable {n : UInt32}

lemma step_sleep (hpc : k.currentPc = .sleep n) :
    (k.step .go).1 = ⟨taskSleepSection n k.sched, Function.update k.pc k.current (.switch .own)⟩ :=
  advance_of_pc hpc

lemma asleep_of_sleep (hpc : k.currentPc = .sleep n)
    (hwrap : k.sched.schedulerTicks.toNat + n.toNat < 2 ^ 32) (hother : k.OtherCanRun) :
    (k.step .go).1.Asleep k.current n.toNat := by
  rw [step_sleep hpc]
  refine ⟨k.sched.current_lt, ?_, ?_, Or.inr ⟨?_, ?_⟩⟩
  · simp [taskSleepSection, Sched.stateOf]
  · simp only [taskSleepSection, Sched.setTask_same]
    exact Nat.mod_eq_of_lt hwrap
  · exact Function.update_self ..
  · obtain ⟨u, hne, hin, hu⟩ := hother
    have hsame : (taskSleepSection n k.sched).osTasks u = k.sched.osTasks u :=
      Sched.setTask_of_ne _ hne
    refine ⟨u, hne, hin, ?_⟩
    rw [Sched.stateOf, hsame]
    exact hu

lemma toNat_pos_of_ne_zero (hn : n ≠ 0) : 0 < n.toNat :=
  Nat.pos_of_ne_zero fun h => hn (UInt32.toNat_inj.1 h)

lemma SleepsOnTime.after_switch (h : k.SleepsOnTime n) (hpc : k.currentPc = .sleep n)
    (hn : n ≠ 0) :
    (schedulerSelectAndSwitch false (taskSleepSection n k.sched)).stateOf k.current = .sleeping := by
  have hpc₁ : Kernel.currentPc
      ⟨taskSleepSection n k.sched, Function.update k.pc k.current (.switch .own)⟩ = .switch .own :=
    Function.update_self ..
  have hspares : Spares k.current (k.step .go).1 .go := by
    rw [step_sleep hpc]
    simp [Spares, hpc₁, Pc.Kills]
  have hsleep := (h [.go] ⟨hspares, trivial⟩).1 (toNat_pos_of_ne_zero hn)
  rw [Machine.run_cons, Machine.run_nil, step_sleep hpc] at hsleep
  change (Kernel.advance _).sched.stateOf _ = _ at hsleep
  rwa [advance_of_pc hpc₁] at hsleep

lemma not_sleepsOnTime_of_alone (hpc : k.currentPc = .sleep n) (hn : n ≠ 0)
    (halone : ¬ k.OtherCanRun) : ¬ k.SleepsOnTime n := by
  intro h
  have hsleep := h.after_switch hpc hn
  set s₁ := taskSleepSection n k.sched with hs₁
  have hothers : ∀ u, u ≠ k.current → s₁.InTable u →
      ¬ ((s₁.beforePick false).stateOf u).Runnable := by
    intro u hne hin hrun
    have hsame : s₁.osTasks u = k.sched.osTasks u := Sched.setTask_of_ne _ hne
    refine halone ⟨u, hne, hin, ?_⟩
    rw [Sched.beforePick_false_stateOf, Sched.stateOf, hsame] at hrun
    split_ifs at hrun with hdue
    · exact Or.inr hdue.2
    · exact Or.inl hrun
  -- whoever is picked can run or is the old task
  have hpicked : (schedulerSelectAndSwitch false s₁).osCurrentTask = k.current := by
    by_contra hne
    rcases schedulerSelectAndSwitch_cases false s₁ with
      ⟨hin, hr⟩ | ⟨-, -, hnew⟩ | ⟨-, -, hin, hr⟩ | ⟨-, hnew⟩
    · exact hothers _ hne hin (Or.inl hr)
    · exact hne hnew
    · exact hothers _ hne hin (Or.inr hr)
    · exact hne hnew
  have hrun := schedulerSelectAndSwitch_running false s₁
  rw [hpicked, hsleep] at hrun
  cases hrun

lemma stateOf_ticks {m : Nat} (hst : k.sched.stateOf t = .sleeping)
    (hwake : (k.sched.osTasks t).wakeTick = 0) :
    (Machine.run Kernel.step k (List.replicate m .tick)).sched.stateOf t = .sleeping := by
  induction m generalizing k with
  | zero => exact hst
  | succ m ih =>
    have hsame : (k.step .tick).1.sched.osTasks t = k.sched.osTasks t := by
      refine schedulerTimerTick_of_not_due ?_ fun hin => hin.2.2.1 hwake
      rw [hst]
      exact not_runnable_sleeping
    refine ih ?_ ?_
    · rw [Sched.stateOf, hsame]
      exact hst
    · rwa [hsame]

lemma spares_ticks (m : Nat) :
    Machine.Runs (Spares t) Kernel.step k (List.replicate m .tick) := by
  induction m generalizing k with
  | zero => trivial
  | succ m ih => exact ⟨trivial, ih⟩

/-- When the tick of the task wraps round to zero the task is never woken; when it wraps round to
another number, that number has come already. -/
lemma not_sleepsOnTime_of_wrap (hpc : k.currentPc = .sleep n) (hn : n ≠ 0)
    (hwrap : 2 ^ 32 ≤ k.sched.schedulerTicks.toNat + n.toNat) : ¬ k.SleepsOnTime n := by
  intro h
  have hpos := toNat_pos_of_ne_zero hn
  set s₁ := taskSleepSection n k.sched with hs₁
  have hentry : s₁.osTasks k.current =
      { k.sched.osTasks k.current with
        state := .sleeping, wakeTick := k.sched.schedulerTicks + n } := Sched.setTask_same _
  have hst : s₁.stateOf k.current = .sleeping := by
    rw [Sched.stateOf, hentry]
  by_cases hzero : k.sched.schedulerTicks + n = 0
  · obtain ⟨m, hm⟩ : ∃ m, n.toNat = m + 1 := ⟨n.toNat - 1, by omega⟩
    have hmoves : List.replicate (m + 1) Move.tick = List.replicate m Move.tick ++ [.tick] :=
      List.replicate_succ'
    have hcount : ticksIn (List.replicate (m + 1) .tick) = n.toNat := by
      rw [hm]
      exact List.countP_replicate
    have hready := (h _ (spares_ticks (m + 1))).2 _ hmoves hcount
    rw [step_sleep hpc, stateOf_ticks hst (by rw [hentry, hzero])] at hready
    cases hready
  · -- the switch finds the task due
    have hlt := n.toNat_lt
    have hsum : (k.sched.schedulerTicks + n).toNat =
        k.sched.schedulerTicks.toNat + n.toNat - 2 ^ 32 := by
      have hticks := k.sched.schedulerTicks.toNat_lt
      rw [UInt32.toNat_add, Nat.mod_eq_sub_mod hwrap]
      exact Nat.mod_eq_of_lt (by omega)
    have hdue : s₁.InTable k.current ∧ (s₁.osTasks k.current).Due s₁.schedulerTicks := by
      refine ⟨k.sched.current_lt, Or.inl hst, ?_, ?_⟩
      · rwa [hentry]
      · rw [hentry, UInt32.le_iff_toNat_le, hsum]
        change _ ≤ k.sched.schedulerTicks.toNat
        omega
    have hsleep := h.after_switch hpc hn
    by_cases hpicked : k.current = (schedulerSelectAndSwitch false s₁).osCurrentTask
    · rw [hpicked, schedulerSelectAndSwitch_running] at hsleep
      cases hsleep
    · rw [schedulerSelectAndSwitch_stateOf_of_ne _ _ hpicked, Sched.beforePick_false_stateOf,
        if_pos hdue] at hsleep
      cases hsleep

end Kernel

open Kernel

/-- A task that is about to sleep for `n` ticks wakes on time, whatever happens to the others,
exactly when the counter does not wrap round before, and somebody else can take the processor. -/
theorem taskSleep_onTime_iff (k : Kernel) {n : UInt32} (hn : n ≠ 0) (hpc : k.currentPc = .sleep n) :
    k.SleepsOnTime n ↔ k.sched.schedulerTicks.toNat + n.toNat < 2 ^ 32 ∧ k.OtherCanRun := by
  constructor
  · intro h
    refine ⟨?_, ?_⟩
    · by_contra hwrap
      exact not_sleepsOnTime_of_wrap hpc hn (not_lt.1 hwrap) h
    · by_contra halone
      exact not_sleepsOnTime_of_alone hpc hn halone h
  · rintro ⟨hwrap, hother⟩ moves hruns
    have hasleep := asleep_of_sleep hpc hwrap hother
    refine ⟨fun hlt => (hasleep.run hruns hlt).state, ?_⟩
    rintro pre rfl hcount
    rw [ticksIn_concat_tick] at hcount
    obtain ⟨hpre, -⟩ := (Machine.runs_append ..).1 hruns
    have hlast := hasleep.run hpre (by omega)
    rw [show n.toNat - ticksIn pre = 1 by omega] at hlast
    rw [Machine.run_append]
    exact hlast.last_tick

/-- Task 0 sleeps for a tick while task 1 can run. -/
theorem taskSleep_onTime_iff_boot :
    (reached [.create 1 (-1), .call (.taskSleep 1)]).SleepsOnTime 1 :=
  (taskSleep_onTime_iff (reached [.create 1 (-1), .call (.taskSleep 1)]) (by decide) rfl).2
    ⟨by decide, 1, by decide, by decide, Or.inl (by decide)⟩

/-- Two tasks, one of them about to sleep, with the counter at its last value. -/
def sleepAtLastTick (n : UInt32) : Kernel :=
  let k := reached [.create 1 (-1), .call (.taskSleep n)]
  { k with sched := { k.sched with schedulerTicks := 0xFFFFFFFF } }

/-- `task_sleep(1)` at the last tick never ends, and `task_sleep(2)` there ends at once. -/
theorem taskSleep_not_onTime :
    ¬ (sleepAtLastTick 1).SleepsOnTime 1 ∧ ¬ (sleepAtLastTick 2).SleepsOnTime 2 :=
  ⟨not_sleepsOnTime_of_wrap rfl (by decide) (by decide),
    not_sleepsOnTime_of_wrap rfl (by decide) (by decide)⟩

end NeuroSpark
