import NeuroSpark.Sched.Effects

/-!
# One running task

A section that stops the current task leaves no RUNNING task until the switch has chosen one. The
exception is a wait on a queue with `MAX_TASKS` entries: it takes nobody in and the caller goes to
the switch still RUNNING, where it is not demoted. If another task is READY then, two are RUNNING
afterwards.
-/

namespace NeuroSpark

open Function (update update_self update_of_ne)

namespace Kernel

/-- The current task executes: it is not between the section that stops it and the switch. -/
def Executing (k : Kernel) : Prop := ∀ r, k.currentPc ≠ .switch r

/-- While the current task executes, it and no other is RUNNING. -/
def OneRunning (k : Kernel) : Prop :=
  k.Executing → ∀ t, k.sched.stateOf t = .running ↔ t = k.current

/-- If the current task is RUNNING when it comes to the switch, nobody else can take over. -/
def SwitchIsClear (k : Kernel) (m : Move) : Prop :=
  ∀ r, m = .go → k.currentPc = .switch r → k.sched.stateOf k.current = .running →
    ∀ t, t ≠ k.current → k.sched.InTable t →
      k.sched.stateOf t ≠ .ready ∧ ¬ (k.sched.osTasks t).Due k.sched.schedulerTicks

/-- What holds between any two steps. -/
structure SingleRunning (k : Kernel) : Prop where
  others : ∀ t, t ≠ k.current → k.sched.stateOf t ≠ .running
  current : k.Executing → k.sched.stateOf k.current = .running
  /-- Only the task that has the processor can be on its way to the switch. -/
  points : ∀ t r, t ≠ k.current → k.pc t ≠ .switch r

variable {k : Kernel}

section

variable (h : k.SingleRunning)
include h

lemma SingleRunning.oneRunning : k.OneRunning := by
  intro hexec t
  constructor
  · intro hrun
    by_contra hne
    exact h.others t hne hrun
  · rintro rfl
    exact h.current hexec

omit h in
lemma boot_singleRunning : Kernel.boot.SingleRunning where
  others := by decide
  current _ := rfl
  points _ _ _ := by simp [boot]

/-! ### One step -/

lemma SingleRunning.call (c : Call) : (k.step (.call c)).1.SingleRunning := by
  simp only [step]
  split_ifs with hown
  · refine ⟨h.others, fun _ => h.current fun r => by simp [hown], fun t r ht => ?_⟩
    have htc : t ≠ k.current := ht
    simpa [setPc, htc] using h.points t r htc
  · exact h

omit h in
lemma step_tick_current (k : Kernel) : (k.step .tick).1.current = k.current :=
  schedulerTimerTick_current k.sched

lemma SingleRunning.tick : (k.step .tick).1.SingleRunning where
  others t ht := by
    rw [step_tick_current] at ht
    change (schedulerTimerTick k.sched).stateOf t ≠ _
    rw [schedulerTimerTick_stateOf]
    split_ifs
    · simp
    · exact h.others t ht
  current hexec := by
    rw [Executing, currentPc, step_tick_current] at hexec
    have hrun := h.current hexec
    rw [step_tick_current]
    change (schedulerTimerTick k.sched).stateOf k.current = _
    rw [schedulerTimerTick_stateOf,
      if_neg fun hdue => Tcb.not_due_of_runnable (Or.inr hrun) hdue.2, hrun]
  points t r ht := by
    rw [step_tick_current] at ht
    exact h.points t r ht

lemma SingleRunning.create (index : TaskId) (parent : Int) :
    (k.step (.create index parent)).1.SingleRunning := by
  simp only [step]
  split_ifs with hslot
  · obtain ⟨hown, hne, -⟩ := hslot
    refine ⟨fun t ht => ?_, fun _ => ?_, fun t r ht => ?_⟩
    · by_cases hti : t = index
      · subst hti
        simp
      · rw [createTask_stateOf_of_ne parent k.sched hti]
        exact h.others t ht
    · exact (createTask_stateOf_of_ne parent k.sched hne.symm).trans
        (h.current fun r => by simp [hown])
    · by_cases hti : t = index
      · subst hti
        simp
      · simpa [hti] using h.points t r ht
  · exact h

lemma SingleRunning.of_switch {force : Bool} (next : Resume)
    (hothers : ∀ t, t ≠ (schedulerSelectAndSwitch force k.sched).osCurrentTask →
      (k.sched.beforePick force).stateOf t ≠ .running) :
    SingleRunning { sched := schedulerSelectAndSwitch force k.sched
                    pc := update k.pc k.current next.pc } where
  others t ht := by
    rw [schedulerSelectAndSwitch_stateOf_of_ne force k.sched ht]
    exact hothers t ht
  current _ := schedulerSelectAndSwitch_running force k.sched
  points t r _ := by
    by_cases htc : t = k.current
    · subst htc
      simpa using next.pc_ne_switch r
    · simpa [htc] using h.points t r htc

lemma SingleRunning.beforePick_ne (force : Bool) {t : TaskId}
    (ht : t ≠ k.current) : (k.sched.beforePick force).stateOf t ≠ .running := by
  rw [Sched.beforePick_stateOf_of_ne _ _ ht]
  split_ifs
  · simp
  · exact h.others t ht

lemma SingleRunning.yield (hpc : k.currentPc = .yield) : k.advance.SingleRunning := by
  have hrun := h.current fun r => by simp [hpc]
  rw [advance, hpc]
  refine h.of_switch .own fun t _ => ?_
  by_cases htc : t = k.current
  · subst htc
    simp [Sched.beforePick_true_current hrun]
  · exact h.beforePick_ne true htc

omit h in
lemma switch_keeps {r : Resume} (hpc : k.currentPc = .switch r)
    (hrun : k.sched.stateOf k.current = .running) (hclear : k.SwitchIsClear .go) :
    (schedulerSelectAndSwitch false k.sched).osCurrentTask = k.current := by
  have hold : (k.sched.beforePick false).stateOf k.current = .running := by
    rw [Sched.beforePick_false_stateOf,
      if_neg fun hdue => Tcb.not_due_of_runnable (Or.inr hrun) hdue.2, hrun]
  rcases schedulerSelectAndSwitch_cases false k.sched with
    ⟨hin, hready⟩ | ⟨-, -, hnew⟩ | ⟨-, hnot, -⟩ | ⟨-, hnew⟩
  · -- the chosen task is READY, which at a clear switch no other task is
    by_contra hne
    obtain ⟨hnotReady, hnotDue⟩ := hclear r rfl hpc hrun _ hne hin
    rw [Sched.beforePick_false_stateOf, if_neg fun hdue => hnotDue hdue.2] at hready
    exact hnotReady hready
  · exact hnew
  · exact absurd hold hnot
  · exact hnew

lemma SingleRunning.switch {r : Resume} (hpc : k.currentPc = .switch r)
    (hclear : k.SwitchIsClear .go) : k.advance.SingleRunning := by
  rw [advance, hpc]
  refine h.of_switch r fun t ht => ?_
  by_cases htc : t = k.current
  · subst htc
    by_cases hrun : k.sched.stateOf k.current = .running
    · exact absurd (switch_keeps hpc hrun hclear).symm ht
    · rw [Sched.beforePick_false_stateOf]
      split_ifs
      · simp
      · exact hrun
  · exact h.beforePick_ne false htc

lemma SingleRunning.section (hyield : k.currentPc ≠ .yield)
    (hexec : k.Executing) : k.advance.SingleRunning := by
  obtain ⟨hcur, -, -⟩ := Pc.exec_frame hyield hexec k.sched
  have hrun := h.current hexec
  have hcurrent : k.advance.current = k.current := hcur
  refine ⟨fun t ht => ?_, fun hexec' => ?_, fun t r ht => ?_⟩
  · rw [hcurrent] at ht
    have hold := h.others t ht
    cases Pc.exec_change hyield hexec k.sched t with
    | same hst => simpa [advance, Sched.stateOf, hst] using hold
    | stopped hst htc => exact absurd htc ht
    | killed hst => simp [advance, hst]
    | released hst => simp [advance, hst]
  · rw [hcurrent]
    cases Pc.exec_change hyield hexec k.sched k.current with
    | same hst => exact (congrArg Tcb.state hst).trans hrun
    | stopped hst _ hpc =>
      obtain ⟨r, hr⟩ := hpc
      refine absurd ?_ (hexec' r)
      change update k.pc k.current _ k.advance.current = _
      rw [hcurrent, update_self, hr]
    | killed hst hne => exact absurd rfl hne
    | released hst hblocked => simp [hrun] at hblocked
  · rw [hcurrent] at ht
    change update k.pc k.current _ t ≠ _
    rw [update_of_ne ht]
    exact h.points t r ht

/-- Every step at which the switch is clear keeps one task RUNNING. -/
theorem SingleRunning.step (m : Move) (hclear : k.SwitchIsClear m) :
    (k.step m).1.SingleRunning := by
  cases m with
  | call c => exact h.call c
  | tick => exact h.tick
  | create index parent => exact h.create index parent
  | go =>
    cases hpc : k.currentPc with
    | yield => exact h.yield hpc
    | switch r => exact h.switch hpc hclear
    | _ => exact h.section (by simp [hpc]) fun r => by simp [hpc]

lemma SingleRunning.clear_of_oneRunning {m : Move}
    (hone : (k.step m).1.OneRunning) : k.SwitchIsClear m := by
  rintro r rfl hpc hrun t ht hin
  by_contra hnot
  have hready : (k.sched.beforePick false).stateOf t = .ready := by
    rw [Sched.beforePick_false_stateOf]
    split_ifs with hdue
    · rfl
    · by_contra hne
      exact hnot ⟨hne, fun hd => hdue ⟨hin, hd⟩⟩
  -- somebody is READY, so the switch leaves the current task, which stays RUNNING
  have hstate : (k.step .go).1.sched = schedulerSelectAndSwitch false k.sched := by
    simp [Kernel.step, advance, hpc, Pc.exec]
  have hne : (schedulerSelectAndSwitch false k.sched).osCurrentTask ≠ k.current := by
    intro heq
    rcases schedulerSelectAndSwitch_cases false k.sched with
      ⟨-, hr⟩ | ⟨hno, -⟩ | ⟨hno, -⟩ | ⟨hno, -⟩
    · rw [heq, Sched.beforePick_false_stateOf,
        if_neg fun hdue => Tcb.not_due_of_runnable (Or.inr hrun) hdue.2, hrun] at hr
      cases hr
    · exact hno t hin hready
    · exact hno t hin hready
    · exact hno t hin (Or.inl hready)
  have hold : (k.step .go).1.sched.stateOf k.current = .running := by
    rw [hstate, schedulerSelectAndSwitch_stateOf_of_ne false k.sched hne.symm,
      Sched.beforePick_false_stateOf,
      if_neg fun hdue => Tcb.not_due_of_runnable (Or.inr hrun) hdue.2, hrun]
  have hexec : (k.step .go).1.Executing := by
    intro r'
    have hcur : (k.step .go).1.current = (schedulerSelectAndSwitch false k.sched).osCurrentTask :=
      congrArg Sched.osCurrentTask hstate
    change update k.pc k.current _ (k.step .go).1.current ≠ _
    rw [hcur, update_of_ne hne]
    exact h.points _ r' hne
  have heq := (hone hexec k.current).1 hold
  exact hne (by rw [heq]; exact (congrArg Sched.osCurrentTask hstate).symm)

end

end Kernel

/-- From boot on, one task is RUNNING all along a run exactly when every switch is clear: a task
whose wait found the queue full meets no READY or due task there. -/
theorem oneRunning_iff_switchIsClear (moves : List Move) :
    (∀ pre, pre <+: moves → (Machine.run Kernel.step Kernel.boot pre).OneRunning) ↔
      Machine.Runs Kernel.SwitchIsClear Kernel.step Kernel.boot moves :=
  Machine.runs_iff_forall_prefix (fun _ m hk hm => hk.step m hm) (fun _ hk => hk.oneRunning)
    (fun _ _ hk hone => hk.clear_of_oneRunning hone) Kernel.boot_singleRunning moves

/-! ### A full queue -/

namespace Kernel

/-- Task 0 is alone, in its own code, and a queue has `n` entries. -/
structure Alone (k : Kernel) (q : WaitQueue) (n : Nat) : Prop where
  count : k.sched.osTaskCount = 1
  running : k.sched.stateOf k.current = .running
  own : k.currentPc = .own
  queue : (k.sched.waitQueues q).count = n

variable {k : Kernel} {q : WaitQueue} {n : Nat}

lemma Alone.current_eq (h : k.Alone q n) : k.current = 0 := by
  have hlt := k.sched.current_lt
  rw [h.count] at hlt
  exact Fin.ext (by simpa using hlt)

lemma advance_of_pc {pc : Pc} (hpc : k.currentPc = pc) :
    k.advance = { sched := (pc.exec k.sched).1
                  pc := update k.pc k.current (pc.exec k.sched).2 } := by
  subst hpc
  rfl

/-- A wait: the call, its section and the switch. -/
def waitMoves (q : WaitQueue) : List Move := [.call (.waitQueueWait q), .go, .go]

lemma schedulerSelectAndSwitch_waitQueues (force : Bool) (s : Sched) :
    (schedulerSelectAndSwitch force s).waitQueues = s.waitQueues := by
  have hdemote : (s.demote force).waitQueues = s.waitQueues := by
    unfold Sched.demote
    split <;> rfl
  exact hdemote

lemma run_waitMoves (hown : k.currentPc = .own) :
    Machine.run Kernel.step k (waitMoves q) =
      { sched := schedulerSelectAndSwitch false (waitQueueWaitSection q k.sched)
        pc := update k.pc k.current .own } := by
  have hcur : (waitQueueWaitSection q k.sched).osCurrentTask = k.current := by
    simp only [waitQueueWaitSection]
    split_ifs <;> rfl
  have hcall : (k.step (.call (.waitQueueWait q))).1 = k.setPc k.current (.wait q .own) := by
    simp [step, hown, Call.enter]
  have hsection : (k.setPc k.current (.wait q .own)).advance =
      { sched := waitQueueWaitSection q k.sched
        pc := update k.pc k.current (.switch .own) } := by
    rw [advance_of_pc (show _ = Pc.wait q .own by simp [setPc, currentPc, current])]
    simp [setPc, Pc.exec, current]
  simp only [waitMoves, Machine.run_cons, Machine.run_nil, hcall]
  change (k.setPc k.current (.wait q .own)).advance.advance = _
  rw [hsection, advance_of_pc (show _ = Pc.switch .own by simp [currentPc, current, hcur])]
  simp [Pc.exec, current, hcur, Resume.pc]

/-- Nobody else can run, so the task that waits has the processor back at once, and its entry
stays. -/
lemma Alone.wait (h : k.Alone q n) (hn : n < 8) :
    (Machine.run Kernel.step k (waitMoves q)).Alone q (n + 1) := by
  have hroom : (k.sched.waitQueues q).count < 8 := by rw [h.queue]; exact hn
  have hcount : (waitQueueWaitSection q k.sched).osTaskCount = 1 := by
    simp [waitQueueWaitSection, hroom, Sched.setQueue, h.count]
  have hcur : (schedulerSelectAndSwitch false (waitQueueWaitSection q k.sched)).osCurrentTask =
      k.current := by
    have hlt := (schedulerSelectAndSwitch false (waitQueueWaitSection q k.sched)).current_lt
    rw [schedulerSelectAndSwitch_osTaskCount, hcount] at hlt
    rw [h.current_eq]
    exact Fin.ext (by simpa using hlt)
  rw [run_waitMoves h.own]
  refine ⟨?_, schedulerSelectAndSwitch_running _ _, ?_, ?_⟩
  · rw [schedulerSelectAndSwitch_osTaskCount, hcount]
  · simp [currentPc, current, hcur]
  · rw [schedulerSelectAndSwitch_waitQueues]
    rw [waitQueueWaitSection, dif_pos hroom]
    simp [h.queue]

lemma Alone.waits (h : k.Alone q 0) (hn : n ≤ 8) :
    (Machine.run Kernel.step k ((List.replicate n (waitMoves q)).flatten)).Alone q n := by
  induction n with
  | zero => exact h
  | succ n ih =>
    rw [List.replicate_succ', List.flatten_append, Machine.run_append]
    simpa using (ih (by omega)).wait (by omega)

/-- With the queue full, the next wait leaves the first of two tasks RUNNING beside the other. -/
lemma Alone.full (h : k.Alone q 8) :
    let k' := Machine.run Kernel.step k (.create 1 (-1) :: waitMoves q)
    k'.current = 1 ∧ k'.currentPc = .own ∧ k'.sched.stateOf 0 = .running := by
  have hzero := h.current_eq
  set k₁ := (k.step (.create 1 (-1))).1 with hk₁
  have hfree : k.currentPc = .own ∧ k.SlotFree 1 :=
    ⟨h.own, by simp [hzero], Or.inr (by simp [h.count])⟩
  have hstep : k₁ = { sched := createTask 1 (-1) k.sched, pc := update k.pc 1 .own } := by
    rw [hk₁, step, if_pos hfree]
  have hcur₁ : k₁.current = 0 := by rw [hstep]; exact hzero
  have hown₁ : k₁.currentPc = .own := by
    rw [currentPc, hcur₁, hstep]
    simpa [currentPc, hzero] using h.own
  have hrun₁ : k₁.sched.stateOf 0 = .running := by
    rw [hstep]
    simpa [createTask, Sched.stateOf, hzero] using h.running
  have hready₁ : k₁.sched.stateOf 1 = .ready := by rw [hstep]; simp
  have hcount₁ : k₁.sched.osTaskCount = 2 := by
    rw [hstep]
    simp [createTask, h.count]
  have hfull₁ : waitQueueWaitSection q k₁.sched = k₁.sched := by
    have hq : (k₁.sched.waitQueues q).count = 8 := by rw [hstep]; exact h.queue
    simp [waitQueueWaitSection, hq]
  have hpick₀ : (k₁.sched.beforePick false).stateOf 0 = .running := by
    rw [Sched.beforePick_false_stateOf,
      if_neg fun hdue => Tcb.not_due_of_runnable (Or.inr hrun₁) hdue.2, hrun₁]
  have hpick₁ : (k₁.sched.beforePick false).stateOf 1 = .ready := by
    rw [Sched.beforePick_false_stateOf,
      if_neg fun hdue => Tcb.not_due_of_runnable (Or.inl hready₁) hdue.2, hready₁]
  have hin₁ : k₁.sched.InTable 1 := by simp [Sched.InTable, hcount₁]
  have hnew : (schedulerSelectAndSwitch false k₁.sched).osCurrentTask = 1 := by
    rcases schedulerSelectAndSwitch_cases false k₁.sched with
      ⟨hin, hready⟩ | ⟨hno, -⟩ | ⟨hno, -⟩ | ⟨hno, -⟩
    · have hne : (schedulerSelectAndSwitch false k₁.sched).osCurrentTask ≠ 0 := by
        intro heq
        rw [heq, hpick₀] at hready
        cases hready
      have hval := Fin.val_ne_of_ne hne
      exact Fin.ext (by omega)
    · exact absurd hpick₁ (hno 1 hin₁)
    · exact absurd hpick₁ (hno 1 hin₁)
    · exact absurd (Or.inl hpick₁) (hno 1 hin₁)
  rw [Machine.run_cons, ← hk₁, run_waitMoves hown₁, hfull₁]
  refine ⟨hnew, ?_, ?_⟩
  · simp only [currentPc, current, hnew]
    have hpc : k₁.pc 1 = .own := by rw [hstep]; simp
    have hne : (1 : TaskId) ≠ k₁.current := by rw [hcur₁]; decide
    exact (update_of_ne hne ..).trans hpc
  · rw [schedulerSelectAndSwitch_stateOf_of_ne _ _ (by rw [hnew]; decide), hpick₀]

end Kernel

/-- Task 0 waits eight times with nobody there to wake it, creates a task and waits once more: then
both are RUNNING. -/
theorem oneRunning_fails_on_full_queue :
    ∃ moves, let k := Machine.run Kernel.step Kernel.boot moves
      k.currentPc = .own ∧ ¬ ∀ t, k.sched.stateOf t = .running ↔ t = k.current := by
  have halone : Kernel.boot.Alone (.other 0) 0 := ⟨rfl, rfl, rfl, rfl⟩
  refine ⟨(List.replicate 8 (Kernel.waitMoves (.other 0))).flatten ++
    .create 1 (-1) :: Kernel.waitMoves (.other 0), ?_⟩
  rw [Machine.run_append]
  obtain ⟨hcur, hown, hrun⟩ := (halone.waits (le_refl 8)).full
  refine ⟨hown, fun h => ?_⟩
  have hzero := (h 0).1 hrun
  rw [hcur] at hzero
  exact absurd hzero (by decide)

end NeuroSpark
