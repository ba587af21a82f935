import NeuroSpark.Sched.Sleeping
import NeuroSpark.Sched.Waiters

/-!
# Signals and timed waits

A wait with a time-out learns how it ended from the clock, when it has the processor back, and not
from what ended it. A run keeps book of the signals beside the kernel: which waits a signal has
ended, and whether one is stored in the event. The results of the waits agree with the book as long
as a waiter that was woken goes on before its deadline, and a wait is entered and suspended as it
should.
-/

namespace NeuroSpark

open Function (update update_self update_of_ne)

/-! ### Runs on one event -/

/-- What a task calls: the functions of the event, and `task_yield` to let the others go on. -/
inductive EventCall where
  | taskYield
  | schedEventSignal
  | schedEventWaitTimeout (maxTicks : UInt32)
  deriving DecidableEq

def EventCall.call (e : Nat) : EventCall → Call
  | .taskYield => .taskYield
  | .schedEventSignal => .schedEventSignal e
  | .schedEventWaitTimeout maxTicks => .schedEventWaitTimeout e maxTicks

inductive EventMove where
  | call (c : EventCall)
  | go
  | tick
  deriving DecidableEq

/-- The kernel and the book: the tasks whose wait a signal has ended and has not returned yet, and
whether a signal is stored in the event. -/
structure EventRun where
  kernel : Kernel
  woken : TaskId → Bool
  stored : Bool

namespace EventRun

/-- The wait that returns with the next section of the current task, and its result. -/
def returned (r : EventRun) : Option (TaskId × Bool) :=
  match r.kernel.currentPc with
  | .eventTest e (some _) =>
    if r.kernel.sched.signaled e then some (r.kernel.current, true) else none
  | .deadline tick .own => some (r.kernel.current, !decide (tick ≤ r.kernel.sched.schedulerTicks))
  | _ => none

/-- The book after the next section of the current task. -/
def book (r : EventRun) (after : Kernel) : EventRun :=
  match r.kernel.currentPc with
  | .signalWake _ =>
    { r with
      kernel := after
      woken := fun t => r.woken t ||
        decide (r.kernel.sched.stateOf t = .blocked ∧ after.sched.stateOf t = .ready) }
  | .signalSet _ => { r with kernel := after, stored := true }
  | .eventTest _ _ => { r with kernel := after, stored := false }
  | .deadline _ _ => { r with kernel := after, woken := Function.update r.woken r.kernel.current false }
  | _ => { r with kernel := after }

def step (e : Nat) (r : EventRun) (m : EventMove) : EventRun × Option (TaskId × Bool) :=
  match m with
  | .call c =>
    ({ r with kernel := (r.kernel.step (.call (c.call e))).1 },
      if c = .schedEventWaitTimeout 0 ∧ r.kernel.currentPc = .own then
        some (r.kernel.current, false)
      else none)
  | .go => (r.book r.kernel.advance, r.returned)
  | .tick => ({ r with kernel := (r.kernel.step .tick).1 }, none)

/-- Nothing is signaled but what is stored. -/
def start (e : Nat) (k : Kernel) : EventRun where
  kernel := k
  woken _ := false
  stored := k.sched.signaled e

/-- A signal has been issued for the wait that the task is in. -/
def SignalFor (r : EventRun) (t : TaskId) : Prop :=
  match r.kernel.pc t with
  | .eventTest _ _ => r.stored = true
  | .deadline _ _ => r.woken t = true
  | _ => False

/-- No signal is lost and none is made up at this step: a wait returns 1 exactly if there is a
signal for it, and a signal ends a wait or stays in the event. -/
structure Accounted (e : Nat) (r : EventRun) (m : EventMove) : Prop where
  result : ∀ t res, (r.step e m).2 = some (t, res) → (res = true ↔ r.SignalFor t)
  woken : m = .go → r.kernel.currentPc = .signalWake e →
    (∃ t, r.kernel.sched.stateOf t = .blocked ∧ (r.step e m).1.kernel.sched.stateOf t = .ready ∧
      (r.step e m).1.woken t = true) ∨ (r.step e m).1.kernel.currentPc = .signalSet e
  set : m = .go → r.kernel.currentPc = .signalSet e →
    (r.step e m).1.kernel.sched.signaled e = true
  stored : r.kernel.sched.signaled e = r.stored

/-! ### When the clock tells the truth -/

/-- The deadline of a wait that has been entered and has not returned. -/
def deadlineOf : Pc → Option UInt32
  | .deadline tick .own | .switch (.deadline tick .own) => some tick
  | _ => none

/-- The deadline of a wait that is about to be entered comes before the counter wraps round. -/
def DeadlineFits (s : Sched) : Pc → Prop
  | .waitTimeout _ maxTicks _ => s.schedulerTicks.toNat + maxTicks.toNat < 2 ^ 32
  | _ => True

/-- The next tick is before the deadline of a wait that a signal has ended, and the counter does not
wrap round. -/
def TickFits (s : Sched) (woken : Bool) : Option UInt32 → Prop
  | some tick => s.schedulerTicks.toNat + 1 < if woken then tick.toNat else 2 ^ 32
  | none => True

/-- A wait finds room in its queue and a deadline before the counter wraps round, and the switch
finds a task. No tick reaches the deadline of a waiter that a signal has woken and that has not
returned, and the counter does not wrap round before a wait that is over has returned. -/
def KeepsTime (r : EventRun) : EventMove → Prop
  | .call _ => True
  | .go => r.kernel.currentPc.FindsTask r.kernel.sched ∧ DeadlineFits r.kernel.sched r.kernel.currentPc
  | .tick => ∀ t, TickFits r.kernel.sched (r.woken t) (deadlineOf (r.kernel.pc t))

instance (s : Sched) (woken : Bool) (d : Option UInt32) : Decidable (TickFits s woken d) := by
  cases d with
  | some tick =>
    exact inferInstanceAs (Decidable (s.schedulerTicks.toNat + 1 < if woken then _ else _))
  | none => exact inferInstanceAs (Decidable True)

instance (s : Sched) (pc : Pc) : Decidable (DeadlineFits s pc) :=
  match pc with
  | .waitTimeout _ maxTicks _ =>
    inferInstanceAs (Decidable (s.schedulerTicks.toNat + maxTicks.toNat < 2 ^ 32))
  | .own | .halted | .yield | .sleep _ | .sleepTimeout _ _ | .exit _ | .kill _ _ | .wait _ _
  | .remaining _ _ _ _ | .switch _ | .deadline _ _ | .wake _ | .wakeAll _ | .eventTest _ _
  | .signalWake _ | .broadcastWake _ | .signalSet _ | .send _ _ _ | .recv _ _ =>
    inferInstanceAs (Decidable True)

instance (r : EventRun) (m : EventMove) : Decidable (r.KeepsTime m) :=
  match m with
  | .call _ => inferInstanceAs (Decidable True)
  | .go => inferInstanceAs (Decidable (_ ∧ _))
  | .tick => inferInstanceAs (Decidable (∀ _, TickFits _ _ _))

/-- The points of the three calls. -/
inductive Point (e : Nat) : Pc → Prop
  | own : Point e .own
  | yield : Point e .yield
  | wake : Point e (.signalWake e)
  | set : Point e (.signalSet e)
  | test {maxTicks : UInt32} (h : maxTicks ≠ 0) : Point e (.eventTest e (some maxTicks))
  | wait {maxTicks : UInt32} (h : maxTicks ≠ 0) : Point e (.waitTimeout (.event e) maxTicks .own)
  | switch {tick : UInt32} : Point e (.switch (.deadline tick .own))
  | deadline {tick : UInt32} : Point e (.deadline tick .own)

/-- A BLOCKED task is in a wait whose deadline is to come. -/
structure Waits (k : Kernel) (t : TaskId) (tick : UInt32) : Prop where
  table : k.sched.InTable t
  wakeTick : (k.sched.osTasks t).wakeTick = tick
  ahead : k.sched.schedulerTicks.toNat < tick.toNat
  place : k.pc t = .deadline tick .own ∧ t ≠ k.current ∨
    k.pc t = .switch (.deadline tick .own) ∧ t = k.current

/-- What the clock says about every wait is what the book says. -/
structure Kept (e : Nat) (r : EventRun) : Prop where
  points : ∀ t, Point e (r.kernel.pc t)
  blocked : ∀ t, r.kernel.sched.stateOf t = .blocked →
    r.woken t = false ∧ ∃ tick, Waits r.kernel t tick
  woken : ∀ t, r.woken t = true →
    ∃ tick, r.kernel.pc t = .deadline tick .own ∧
      r.kernel.sched.schedulerTicks.toNat < tick.toNat
  elapsed : ∀ t tick, deadlineOf (r.kernel.pc t) = some tick → r.kernel.sched.stateOf t ≠ .blocked →
    r.woken t = false → tick.toNat ≤ r.kernel.sched.schedulerTicks.toNat
  stored : r.kernel.sched.signaled e = r.stored

variable {e : Nat} {r r' : EventRun} {t : TaskId} {tick : UInt32} {k : Kernel}

lemma kept_start (h : k.Fresh) : (start e k).Kept e where
  points t := h.own t ▸ .own
  blocked t hst := absurd hst (h.notBlocked t)
  woken t hw := by cases hw
  elapsed t tick htick := by simp [start, h.own t, deadlineOf] at htick
  stored := rfl

lemma Waits.not_due (h : Waits k t tick) : ¬ (k.sched.osTasks t).Due k.sched.schedulerTicks := by
  rintro ⟨-, -, hle⟩
  rw [h.wakeTick, UInt32.le_iff_toNat_le] at hle
  exact absurd h.ahead (not_lt_of_ge hle)

lemma Waits.pc_eq (h : Waits k t tick) (ht : t ≠ k.current) : k.pc t = .deadline tick .own :=
  (h.place.resolve_right fun hcur => ht hcur.2).1

lemma Waits.deadlineOf_eq (h : Waits k t tick) : deadlineOf (k.pc t) = some tick := by
  rcases h.place with ⟨hpc, -⟩ | ⟨hpc, -⟩
  · rw [hpc]
    rfl
  · rw [hpc]
    rfl

section

variable (h : r.Kept e)
include h

lemma Kept.current_not_blocked (hpc : ∀ next, r.kernel.currentPc ≠ .switch next) :
    r.kernel.sched.stateOf r.kernel.current ≠ .blocked := by
  intro hst
  obtain ⟨-, tick, hw⟩ := h.blocked _ hst
  rcases hw.place with ⟨-, hne⟩ | ⟨hswitch, -⟩
  · exact hne rfl
  · exact hpc _ hswitch

lemma Kept.points_update {pc : Pc} (hpoint : Point e pc) (t : TaskId) :
    Point e (update r.kernel.pc r.kernel.current pc t) :=
  (Function.forall_update_iff _ fun _ => Point e).mpr ⟨hpoint, fun t _ => h.points t⟩ t

/-- The current task moves on to a point outside a wait. -/
lemma Kept.of_point (pc : Pc) (hswitch : ∀ next, r.kernel.currentPc ≠ .switch next)
    (htasks : r'.kernel.sched.osTasks = r.kernel.sched.osTasks)
    (hcount : r'.kernel.sched.osTaskCount = r.kernel.sched.osTaskCount)
    (hcurrent : r'.kernel.current = r.kernel.current)
    (hclock : r'.kernel.sched.schedulerTicks = r.kernel.sched.schedulerTicks)
    (hpc : r'.kernel.pc = update r.kernel.pc r.kernel.current pc) (hpoint : Point e pc)
    (hnone : deadlineOf pc = none) (hwoken : ∀ t, t ≠ r.kernel.current → r'.woken t = r.woken t)
    (hcur : r'.woken r.kernel.current = false)
    (hstored : r'.kernel.sched.signaled e = r'.stored) : r'.Kept e where
  points t := by
    rw [hpc]
    exact h.points_update hpoint t
  blocked t hst := by
    rw [Sched.stateOf, htasks] at hst
    have hne : t ≠ r.kernel.current := by
      rintro rfl
      exact h.current_not_blocked hswitch hst
    obtain ⟨hnot, tick, hw⟩ := h.blocked t hst
    refine ⟨(hwoken t hne).trans hnot, tick, ?_, ?_, ?_, Or.inl ⟨?_, ?_⟩⟩
    · rw [Sched.InTable, hcount]
      exact hw.table
    · rw [htasks]
      exact hw.wakeTick
    · rw [hclock]
      exact hw.ahead
    · rw [hpc, update_of_ne hne]
      exact hw.pc_eq hne
    · rwa [hcurrent]
  woken t hw := by
    have hne : t ≠ r.kernel.current := by
      rintro rfl
      rw [hcur] at hw
      cases hw
    rw [hwoken t hne] at hw
    rw [hpc, hclock, update_of_ne hne]
    exact h.woken t hw
  elapsed t tick htick hst hnot := by
    have hne : t ≠ r.kernel.current := by
      rintro rfl
      rw [hpc, update_self, hnone] at htick
      cases htick
    rw [hpc, update_of_ne hne] at htick
    rw [Sched.stateOf, htasks] at hst
    rw [hwoken t hne] at hnot
    rw [hclock]
    exact h.elapsed t tick htick hst hnot
  stored := hstored

lemma Kept.current_not_woken (hpc : ∀ tick, r.kernel.currentPc ≠ .deadline tick .own) :
    r.woken r.kernel.current = false := by
  by_contra hw
  obtain ⟨tick, hdeadline, -⟩ := h.woken _ (by simpa using hw)
  exact hpc tick hdeadline

lemma Kept.call (c : EventCall) : (r.step e (.call c)).1.Kept e := by
  simp only [step, Kernel.step]
  split_ifs with hown
  · refine h.of_point ((c.call e).enter r.kernel.sched.schedulerTicks) (by simp [hown]) rfl rfl
      rfl rfl rfl ?_ ?_ (fun _ _ => rfl) (h.current_not_woken (by simp [hown])) h.stored
    · cases c with
      | taskYield => exact .yield
      | schedEventSignal => exact .wake
      | schedEventWaitTimeout maxTicks =>
        simp only [EventCall.call, Call.enter]
        split_ifs with hzero
        · exact .own
        · exact .test hzero
    · cases c with
      | schedEventWaitTimeout maxTicks =>
        simp only [EventCall.call, Call.enter]
        split_ifs <;> rfl
      | _ => rfl
  · exact h

/-- A switch wakes no waiter before its deadline, and chooses none. -/
lemma Kept.switched (force : Bool) (pc : Pc)
    (hother : r.kernel.sched.stateOf r.kernel.current = .blocked →
      ∃ u, r.kernel.sched.InTable u ∧ ((r.kernel.sched.beforePick force).stateOf u).Runnable)
    (hkernel : r'.kernel = ⟨schedulerSelectAndSwitch force r.kernel.sched,
      update r.kernel.pc r.kernel.current pc⟩)
    (hbook : r'.woken = r.woken ∧ r'.stored = r.stored) (hpoint : Point e pc)
    (hwoken : r.woken r.kernel.current = false)
    (hplace : ∀ tick, Waits r.kernel r.kernel.current tick → pc = .deadline tick .own)
    (hover : ∀ tick, deadlineOf pc = some tick →
      r.kernel.sched.stateOf r.kernel.current ≠ .blocked →
      tick.toNat ≤ r.kernel.sched.schedulerTicks.toNat) : r'.Kept e := by
  obtain ⟨k', woken', stored'⟩ := r'
  obtain ⟨rfl, rfl⟩ := hbook
  subst hkernel
  have hkeep : ∀ t, r.kernel.sched.stateOf t = .blocked →
      t ≠ (schedulerSelectAndSwitch force r.kernel.sched).osCurrentTask ∧
        (schedulerSelectAndSwitch force r.kernel.sched).osTasks t = r.kernel.sched.osTasks t := by
    intro t hst
    obtain ⟨-, tick, hw⟩ := h.blocked t hst
    refine Kernel.schedulerSelectAndSwitch_of_not_due ?_ (fun hin => hw.not_due hin.2) ?_
    · rw [hst]
      exact not_runnable_blocked
    · by_cases ht : t = r.kernel.current
      · exact Or.inr (hother (ht ▸ hst))
      · exact Or.inl ht
  refine ⟨fun t => ?_, fun t hst => ?_, fun t hw => ?_, fun t tick htick hst hnot => ?_, ?_⟩
  · exact h.points_update hpoint t
  · have hold : r.kernel.sched.stateOf t = .blocked := schedulerSelectAndSwitch_blocked hst
    obtain ⟨hnew, hsame⟩ := hkeep t hold
    obtain ⟨hnot, tick, hw⟩ := h.blocked t hold
    refine ⟨hnot, tick, ?_, ?_, ?_, Or.inl ⟨?_, hnew⟩⟩
    · simpa [Sched.InTable] using hw.table
    · exact (congrArg Tcb.wakeTick hsame).trans hw.wakeTick
    · simpa using hw.ahead
    · dsimp only
      by_cases ht : t = r.kernel.current
      · rw [ht, update_self]
        exact hplace tick (ht ▸ hw)
      · rw [update_of_ne ht]
        exact hw.pc_eq ht
  · have ht : t ≠ r.kernel.current := by
      rintro rfl
      rw [hwoken] at hw
      cases hw
    dsimp only
    rw [update_of_ne ht, schedulerSelectAndSwitch_ticks]
    exact h.woken t hw
  · have hold : r.kernel.sched.stateOf t ≠ .blocked := by
      intro hblocked
      refine hst ?_
      rw [Sched.stateOf, (hkeep t hblocked).2]
      exact hblocked
    dsimp only at htick ⊢
    rw [schedulerSelectAndSwitch_ticks]
    by_cases ht : t = r.kernel.current
    · subst ht
      rw [update_self] at htick
      exact hover tick htick hold
    · rw [update_of_ne ht] at htick
      exact h.elapsed t tick htick hold hnot
  · rw [← h.stored]
    change (r.kernel.sched.demote force).signaled e = _
    unfold Sched.demote
    split_ifs <;> rfl

/-! ### Waits, signals and ticks -/

/-- A wait that finds room has a deadline to come. -/
lemma Kept.wait {maxTicks : UInt32} (hzero : maxTicks ≠ 0)
    (hpc : r.kernel.currentPc = .waitTimeout (.event e) maxTicks .own)
    (hok : r.KeepsTime .go) : (r.step e .go).1.Kept e := by
  obtain ⟨hroom, hclock⟩ := hok
  rw [hpc] at hroom
  have hsum : (r.kernel.sched.schedulerTicks + maxTicks).toNat =
      r.kernel.sched.schedulerTicks.toNat + maxTicks.toNat := by
    rw [hpc] at hclock
    exact Nat.mod_eq_of_lt hclock
  have hpos := Kernel.toNat_pos_of_ne_zero hzero
  have hnot : r.woken r.kernel.current = false := h.current_not_woken (by simp [hpc])
  have hroom' : (r.kernel.sched.waitQueues (.event e)).count < 8 := hroom
  have hadvance : r.kernel.advance =
      ⟨(r.kernel.sched.setQueue (.event e)
          ((r.kernel.sched.waitQueues (.event e)).push r.kernel.current.val hroom')).setTask
          r.kernel.current { r.kernel.sched.osTasks r.kernel.current with
            state := .blocked, wakeTick := r.kernel.sched.schedulerTicks + maxTicks },
        update r.kernel.pc r.kernel.current
          (.switch (.deadline (r.kernel.sched.schedulerTicks + maxTicks) .own))⟩ := by
    rw [Kernel.advance_of_pc hpc]
    simp only [Pc.exec, waitQueueWaitTimeoutSection, dif_pos hroom']
  have hstep : (r.step e .go).1 = { r with kernel := r.kernel.advance } := by
    simp only [step, book, hpc]
  rw [hstep, hadvance]
  refine ⟨fun t => ?_, fun t hst => ?_, fun t hw => ?_, fun t tick htick hst hnot' => ?_, h.stored⟩
  · exact h.points_update .switch t
  · by_cases ht : t = r.kernel.current
    · subst ht
      refine ⟨hnot, _, r.kernel.sched.current_lt, ?_, ?_, Or.inr ⟨update_self .., rfl⟩⟩
      · simp
      · change r.kernel.sched.schedulerTicks.toNat < _
        omega
    · have hold : r.kernel.sched.stateOf t = .blocked := by
        simpa [Sched.stateOf, ht] using hst
      obtain ⟨hnot', tick, hw⟩ := h.blocked t hold
      refine ⟨hnot', tick, hw.table, ?_, hw.ahead, Or.inl ⟨?_, ht⟩⟩
      · simpa [ht] using hw.wakeTick
      · dsimp only
        rw [update_of_ne ht]
        exact hw.pc_eq ht
  · have ht : t ≠ r.kernel.current := by
      rintro rfl
      rw [hnot] at hw
      cases hw
    dsimp only
    rw [update_of_ne ht]
    exact h.woken t hw
  · by_cases ht : t = r.kernel.current
    · subst ht
      exact absurd (by simp [Sched.stateOf]) hst
    · dsimp only at htick
      rw [update_of_ne ht] at htick
      exact h.elapsed t tick htick (by simpa [Sched.stateOf, ht] using hst) hnot'

omit h in
lemma woken_of_same {s' : Sched} (h : s'.osTasks t = r.kernel.sched.osTasks t) :
    (r.woken t || decide (r.kernel.sched.stateOf t = .blocked ∧ s'.stateOf t = .ready)) =
      r.woken t := by
  have hno : ¬ (r.kernel.sched.stateOf t = .blocked ∧ s'.stateOf t = .ready) := by
    rintro ⟨hb, hr⟩
    rw [Sched.stateOf, h] at hr
    rw [Sched.stateOf, hr] at hb
    cases hb
  rw [decide_eq_false hno, Bool.or_false]

/-- A signal wakes a waiter whose deadline is to come. -/
lemma Kept.wakes {u : TaskId} {q : RingBuffer Int 8} {s' : Sched}
    (hswitch : ∀ next, r.kernel.currentPc ≠ .switch next) (hcur : r.woken r.kernel.current = false)
    (hst : r.kernel.sched.stateOf u = .blocked)
    (hs' : s' = (r.kernel.sched.setQueue (.event e) q).setTask u
      (r.kernel.sched.osTasks u).wake) :
    Kept e ⟨⟨s', update r.kernel.pc r.kernel.current .own⟩,
      fun t => r.woken t || decide (r.kernel.sched.stateOf t = .blocked ∧ s'.stateOf t = .ready),
      r.stored⟩ := by
  obtain ⟨-, tick, hwaits⟩ := h.blocked u hst
  have hblocked := h.current_not_blocked hswitch
  have hu : u ≠ r.kernel.current := fun hcur => hblocked (hcur ▸ hst)
  have hready : s'.stateOf u = .ready := by
    rw [hs']
    simp [Sched.stateOf, Tcb.wake]
  have hsame : ∀ t, t ≠ u → s'.osTasks t = r.kernel.sched.osTasks t := by
    intro t ht
    rw [hs']
    exact Sched.setTask_of_ne _ ht
  have hframe : s'.osTaskCount = r.kernel.sched.osTaskCount ∧
      s'.schedulerTicks = r.kernel.sched.schedulerTicks ∧
      s'.osCurrentTask = r.kernel.sched.osCurrentTask ∧
      s'.signaled = r.kernel.sched.signaled := by
    rw [hs']
    exact ⟨rfl, rfl, rfl, rfl⟩
  obtain ⟨hcount, hclock, hcurrent, hsignaled⟩ := hframe
  refine ⟨fun t => ?_, fun t hb => ?_, fun t hw => ?_, fun t tick' htick hb hnot => ?_, ?_⟩
  · exact h.points_update .own t
  · have ht : t ≠ u := by
      rintro rfl
      rw [hready] at hb
      cases hb
    rw [Sched.stateOf, hsame t ht] at hb
    obtain ⟨hnot, tick', hw⟩ := h.blocked t hb
    have htcur : t ≠ r.kernel.current := fun hcur => hblocked (hcur ▸ hb)
    refine ⟨(woken_of_same (hsame t ht)).trans hnot, tick', ?_, ?_, ?_, Or.inl ⟨?_, ?_⟩⟩
    · rw [Sched.InTable, hcount]
      exact hw.table
    · rw [hsame t ht]
      exact hw.wakeTick
    · rw [hclock]
      exact hw.ahead
    · dsimp only
      rw [update_of_ne htcur]
      exact hw.pc_eq htcur
    · change t ≠ s'.osCurrentTask
      rwa [hcurrent]
  · dsimp only at hw ⊢
    rw [hclock]
    by_cases ht : t = u
    · subst ht
      rw [update_of_ne hu]
      exact ⟨tick, hwaits.pc_eq hu, hwaits.ahead⟩
    · rw [woken_of_same (hsame t ht)] at hw
      have htcur : t ≠ r.kernel.current := by
        rintro rfl
        rw [hcur] at hw
        cases hw
      rw [update_of_ne htcur]
      exact h.woken t hw
  · dsimp only at htick hb hnot ⊢
    have ht : t ≠ u := by
      rintro rfl
      rw [hready, decide_eq_true ⟨hst, rfl⟩, Bool.or_true] at hnot
      cases hnot
    have htcur : t ≠ r.kernel.current := by
      rintro rfl
      rw [update_self] at htick
      cases htick
    rw [woken_of_same (hsame t ht)] at hnot
    rw [Sched.stateOf, hsame t ht] at hb
    rw [update_of_ne htcur] at htick
    rw [hclock]
    exact h.elapsed t tick' htick hb hnot
  · rw [hsignaled]
    exact h.stored

/-- A signal goes to a waiter whose deadline is to come, or it is about to be stored. -/
lemma Kept.signalWake (hpc : r.kernel.currentPc = .signalWake e) : (r.step e .go).1.Kept e ∧
      ((∃ t, r.kernel.sched.stateOf t = .blocked ∧
          (r.step e .go).1.kernel.sched.stateOf t = .ready ∧ (r.step e .go).1.woken t = true) ∨
        (r.step e .go).1.kernel.currentPc = .signalSet e) := by
  have hswitch : ∀ next, r.kernel.currentPc ≠ .switch next := by simp [hpc]
  have hnot : r.woken r.kernel.current = false := h.current_not_woken (by simp [hpc])
  have hstep : (r.step e .go).1 = { r with
      kernel := r.kernel.advance
      woken := fun t => r.woken t || decide (r.kernel.sched.stateOf t = .blocked ∧
        r.kernel.advance.sched.stateOf t = .ready) } := by
    simp only [step, book, hpc]
  have hadvance := Kernel.advance_of_pc hpc
  simp only [Pc.exec] at hadvance
  rw [hstep]
  rcases waitQueueWakeOne_cases (.event e) r.kernel.sched with
    ⟨q, hrun, -, -⟩ | ⟨q, u, dropped, hrun, -, -, -, hst⟩
  · -- nobody waits
    simp only [hrun, Bool.false_eq_true, if_false] at hadvance
    rw [hadvance]
    refine ⟨h.of_point (.signalSet e) hswitch rfl rfl rfl rfl rfl .set rfl
      (fun t _ => woken_of_same rfl) ((woken_of_same rfl).trans hnot) h.stored, Or.inr ?_⟩
    exact update_self ..
  · simp only [hrun, if_true] at hadvance
    rw [hadvance]
    have hready : (((r.kernel.sched.setQueue (.event e) q).setTask u
        (r.kernel.sched.osTasks u).wake).stateOf u) = .ready := by
      simp [Sched.stateOf, Tcb.wake]
    refine ⟨h.wakes hswitch hnot hst rfl, Or.inl ⟨u, hst, hready, ?_⟩⟩
    dsimp only
    rw [hready, decide_eq_true ⟨hst, rfl⟩, Bool.or_true]

lemma Kept.timerTick (hok : r.KeepsTime .tick) : (r.step e .tick).1.Kept e := by
  set s := r.kernel.sched with hs
  -- the counter does not wrap round while somebody is in a wait
  have hclock : ∀ t tick, deadlineOf (r.kernel.pc t) = some tick →
      (s.schedulerTicks + 1).toNat = s.schedulerTicks.toNat + 1 := by
    intro t tick htick
    have hlt := hok t
    rw [htick, TickFits, ← hs] at hlt
    have hbound := tick.toNat_lt
    rw [UInt32.toNat_add]
    refine Nat.mod_eq_of_lt ?_
    change _ + 1 < _
    split_ifs at hlt <;> omega
  have hkeep : ∀ t, (schedulerTimerTick s).stateOf t = .blocked →
      s.stateOf t = .blocked ∧ ¬ (s.osTasks t).Due (s.schedulerTicks + 1) := by
    intro t hst
    rw [schedulerTimerTick_stateOf] at hst
    split_ifs at hst with hdue
    obtain ⟨-, tick, hw⟩ := h.blocked t hst
    exact ⟨hst, fun hbad => hdue ⟨hw.table, hbad⟩⟩
  refine ⟨h.points, fun t hst => ?_, fun t hw => ?_, fun t tick htick hst hnot => ?_, ?_⟩
  · obtain ⟨hold, hdue⟩ := hkeep t hst
    obtain ⟨hnot, tick, hw⟩ := h.blocked t hold
    have hsame : (schedulerTimerTick s).osTasks t = s.osTasks t := by
      refine Kernel.schedulerTimerTick_of_not_due ?_ fun hin => hdue hin.2
      rw [hold]
      exact not_runnable_blocked
    refine ⟨hnot, tick, ?_, ?_, ?_, ?_⟩
    · change t.val < (schedulerTimerTick s).osTaskCount
      rw [schedulerTimerTick_osTaskCount]
      exact hw.table
    · exact (congrArg Tcb.wakeTick hsame).trans hw.wakeTick
    · change (schedulerTimerTick s).schedulerTicks.toNat < _
      rw [schedulerTimerTick_ticks]
      by_contra hle
      refine hdue ⟨Or.inr hold, fun hzero => ?_, ?_⟩
      · have hahead := hw.ahead
        rw [← hw.wakeTick, hzero] at hahead
        cases hahead
      · rw [hw.wakeTick, UInt32.le_iff_toNat_le]
        exact not_lt.1 hle
    · change _ ∧ t ≠ (schedulerTimerTick s).osCurrentTask ∨
        _ ∧ t = (schedulerTimerTick s).osCurrentTask
      rw [schedulerTimerTick_current]
      exact hw.place
  · obtain ⟨tick, hpc, -⟩ := h.woken t hw
    have htick : deadlineOf (r.kernel.pc t) = some tick := by rw [hpc]; rfl
    have hlt := hok t
    have hw' : r.woken t = true := hw
    rw [htick, TickFits, if_pos hw'] at hlt
    refine ⟨tick, hpc, ?_⟩
    change (schedulerTimerTick s).schedulerTicks.toNat < _
    rwa [schedulerTimerTick_ticks, hclock t tick htick]
  · change tick.toNat ≤ (schedulerTimerTick s).schedulerTicks.toNat
    rw [schedulerTimerTick_ticks, hclock t tick htick]
    by_cases hold : s.stateOf t = .blocked
    · -- the tick has made it READY, so its deadline has come
      obtain ⟨-, tick', hw⟩ := h.blocked t hold
      obtain rfl : tick = tick' := Option.some.inj (htick.symm.trans hw.deadlineOf_eq)
      change (schedulerTimerTick s).stateOf t ≠ _ at hst
      rw [schedulerTimerTick_stateOf] at hst
      split_ifs at hst with hdue
      · have hle := hdue.2.2.2
        rwa [hw.wakeTick, UInt32.le_iff_toNat_le, hclock t tick htick] at hle
      · exact absurd hold hst
    · exact (h.elapsed t tick htick hold hnot).trans (Nat.le_succ _)
  · refine Eq.trans ?_ h.stored
    change (schedulerTimerTick s).signaled e = _
    simp only [schedulerTimerTick]
    split_ifs <;> rfl

/-! ### Runs -/

lemma Kept.section {s' : Sched} {pc : Pc} {woken' : TaskId → Bool} {stored' : Bool}
    (hswitch : ∀ next, r.kernel.currentPc ≠ .switch next)
    (hadvance : r.kernel.advance = ⟨s', update r.kernel.pc r.kernel.current pc⟩)
    (hframe : s' = { r.kernel.sched with signaled := s'.signaled }) (hpoint : Point e pc)
    (hnone : deadlineOf pc = none) (hwoken : ∀ t, t ≠ r.kernel.current → woken' t = r.woken t)
    (hcur : woken' r.kernel.current = false) (hstored : s'.signaled e = stored') :
    Kept e ⟨r.kernel.advance, woken', stored'⟩ := by
  rw [hadvance]
  rw [hframe] at hstored ⊢
  exact h.of_point _ hswitch rfl rfl rfl rfl rfl hpoint hnone hwoken hcur hstored

lemma Kept.eventTest {maxTicks : UInt32} (hzero : maxTicks ≠ 0)
    (hpc : r.kernel.currentPc = .eventTest e (some maxTicks)) : (r.step e .go).1.Kept e := by
  have hstep : (r.step e .go).1 = { r with kernel := r.kernel.advance, stored := false } := by
    simp only [EventRun.step, book, hpc]
  have hnot := h.current_not_woken (by simp [hpc])
  have hadvance := Kernel.advance_of_pc (k := r.kernel) hpc
  rw [hstep]
  by_cases hsignaled : r.kernel.sched.signaled e = true
  · simp only [Pc.exec, schedEventTestSection, hsignaled, if_true] at hadvance
    exact h.section (by simp [hpc]) hadvance rfl .own rfl (fun _ _ => rfl) hnot (update_self ..)
  · simp only [Pc.exec, schedEventTestSection, hsignaled, Bool.false_eq_true, if_false] at hadvance
    exact h.section (by simp [hpc]) hadvance rfl (.wait hzero) rfl (fun _ _ => rfl) hnot
      (by simpa using hsignaled)

lemma Kept.switch {tick : UInt32} (hpc : r.kernel.currentPc = .switch (.deadline tick .own))
    (hok : r.KeepsTime .go) : (r.step e .go).1.Kept e := by
  obtain ⟨u, hu, hrun⟩ : ∃ u, r.kernel.sched.InTable u ∧ ((r.kernel.sched.stateOf u).Runnable ∨
      (r.kernel.sched.osTasks u).Due r.kernel.sched.schedulerTicks) := by
    have hfinds := hok.1
    rwa [hpc] at hfinds
  have hnot := h.current_not_woken (by simp [hpc])
  have hstep : (r.step e .go).1 = { r with kernel := r.kernel.advance } := by
    simp only [EventRun.step, book, hpc]
  rw [hstep]
  refine h.switched _ _ (fun _ => ⟨u, hu, Kernel.beforePick_runnable hu hrun⟩)
    (Kernel.advance_of_pc hpc) ⟨rfl, rfl⟩ .deadline hnot (fun tick' hw => ?_)
    (fun tick' htick hst => ?_)
  · rcases hw.place with ⟨-, hne⟩ | ⟨hp, -⟩
    · exact absurd rfl hne
    · cases hpc.symm.trans hp
      rfl
  · cases htick
    exact h.elapsed _ _ (by rw [← Kernel.currentPc, hpc]; rfl) hst hnot

lemma Kept.go (hok : r.KeepsTime .go) : (r.step e .go).1.Kept e := by
  have hpoint : Point e r.kernel.currentPc := h.points r.kernel.current
  cases hpc : r.kernel.currentPc <;> rw [hpc] at hpoint <;> cases hpoint
  case own =>
    have hstep : (r.step e .go).1 = { r with kernel := r.kernel.advance } := by
      simp only [EventRun.step, book, hpc]
    rw [hstep]
    exact h.section (by simp [hpc]) (Kernel.advance_of_pc hpc) rfl .own rfl (fun _ _ => rfl)
      (h.current_not_woken (by simp [hpc])) h.stored
  case yield =>
    have hstep : (r.step e .go).1 = { r with kernel := r.kernel.advance } := by
      simp only [EventRun.step, book, hpc]
    have hnot := h.current_not_blocked (by simp [hpc])
    rw [hstep]
    exact h.switched true .own (fun hst => absurd hst hnot)
      (Kernel.advance_of_pc hpc) ⟨rfl, rfl⟩ .own (h.current_not_woken (by simp [hpc]))
      (fun tick hw => by rcases hw.place with ⟨-, hne⟩ | ⟨hp, -⟩ <;> simp_all)
      (fun tick htick => by cases htick)
  case signalWake => exact (h.signalWake hpc).1
  case signalSet =>
    have hstep : (r.step e .go).1 = { r with kernel := r.kernel.advance, stored := true } := by
      simp only [EventRun.step, book, hpc]
    rw [hstep]
    exact h.section (by simp [hpc]) (Kernel.advance_of_pc hpc) rfl .own rfl (fun _ _ => rfl)
      (h.current_not_woken (by simp [hpc])) (update_self ..)
  case eventTest.test hzero => exact h.eventTest hzero hpc
  case waitTimeout.wait hzero => exact h.wait hzero hpc hok
  case switch.switch => exact h.switch hpc hok
  case deadline =>
    have hstep : (r.step e .go).1 = { r with
        kernel := r.kernel.advance
        woken := update r.woken r.kernel.current false } := by
      simp only [EventRun.step, book, hpc]
    have hadvance := Kernel.advance_of_pc (k := r.kernel) hpc
    simp only [Pc.exec, Resume.pc, ite_self] at hadvance
    rw [hstep]
    exact h.section (by simp [hpc]) hadvance rfl .own rfl (fun t ht => update_of_ne ht ..)
      (update_self ..) h.stored

lemma Kept.step (m : EventMove) (hok : r.KeepsTime m) : (r.step e m).1.Kept e := by
  cases m with
  | call c => exact h.call c
  | go => exact h.go hok
  | tick => exact h.timerTick hok

/-- The results of the waits agree with the book. -/
lemma Kept.accounted (m : EventMove) : r.Accounted e m := by
  refine ⟨fun t res hres => ?_, ?_, ?_, h.stored⟩
  · cases m with
    | call c =>
      simp only [EventRun.step] at hres
      split_ifs at hres with hcall
      obtain ⟨rfl, rfl⟩ := hres
      have hown : r.kernel.pc r.kernel.current = .own := hcall.2
      simp [SignalFor, hown]
    | tick => cases hres
    | go =>
      have hpoint := h.points r.kernel.current
      simp only [EventRun.step, returned] at hres
      split at hres
      · rename_i e' maxTicks hpc
        split_ifs at hres with hsignaled
        obtain ⟨rfl, rfl⟩ := hres
        rw [Kernel.currentPc] at hpc
        rw [hpc] at hpoint
        cases hpoint
        simp [SignalFor, hpc, ← h.stored, hsignaled]
      · rename_i tick hpc
        obtain ⟨rfl, rfl⟩ := hres
        have hst := h.current_not_blocked (by simp [hpc])
        rw [Kernel.currentPc] at hpc
        simp only [SignalFor, hpc, Bool.not_eq_true', decide_eq_false_iff_not]
        rw [UInt32.le_iff_toNat_le, not_le]
        constructor
        · intro hlt
          by_contra hnot
          have hover := h.elapsed _ tick (by rw [hpc]; rfl) hst (by simpa using hnot)
          exact absurd hlt (not_lt.2 hover)
        · intro hw
          obtain ⟨tick', hpc', hlt⟩ := h.woken _ hw
          rw [hpc] at hpc'
          cases hpc'
          exact hlt
      · cases hres
  · rintro rfl hpc
    exact (h.signalWake hpc).2
  · rintro rfl hpc
    have hadvance := Kernel.advance_of_pc hpc
    simp only [EventRun.step, book, hpc, hadvance]
    exact update_self ..

end

end EventRun

open EventRun

/-- From a start with nobody in a wait, along every interleaving of signals, timed waits and ticks
whose steps all keep time, every wait returns 1 exactly if a signal was issued for it, and every
signal ends a wait or stays in the event. -/
theorem signals_accounted (e : Nat) {k : Kernel} (hfresh : k.Fresh) {moves : List EventMove}
    (hok : Machine.Runs KeepsTime (EventRun.step e) (start e k) moves) :
    ∀ pre m, pre ++ [m] <+: moves →
      (Machine.run (EventRun.step e) (start e k) pre).Accounted e m := by
  rintro pre m ⟨rest, rfl⟩
  rw [List.append_assoc] at hok
  exact (Machine.run_invariant (fun r o hr ho => hr.step o ho) (kept_start hfresh)
    ((Machine.runs_append ..).1 hok).1).accounted m

/-- Task 0 waits for five ticks at most, and task 1 signals. -/
def signalMoves : List EventMove :=
  [.call (.schedEventWaitTimeout 5), .go, .go, .go, .call .schedEventSignal, .go]

/-- Task 0 has the processor back before its deadline. -/
theorem signals_accounted_inTime :
    (Machine.run (EventRun.step 0) (start 0 twoTasks)
      (signalMoves ++ [.tick, .call .taskYield, .go])).Accounted 0 .go := by
  have hok : Machine.Runs KeepsTime (EventRun.step 0) (start 0 twoTasks)
      (signalMoves ++ [.tick, .call .taskYield, .go, .go]) := by
    decide +kernel
  exact signals_accounted 0 twoTasks_fresh hok (signalMoves ++ [.tick, .call .taskYield, .go]) .go
    ⟨[], rfl⟩

/-- Task 1 goes on for five ticks before it yields to task 0. -/
def lateRun : EventRun :=
  Machine.run (EventRun.step 0) (start 0 twoTasks)
    (signalMoves ++ [.tick, .tick, .tick, .tick, .tick, .call .taskYield, .go])

/-- Task 0 is alone when it waits. -/
def aloneRun : EventRun :=
  Machine.run (EventRun.step 0) (start 0 Kernel.boot) [.call (.schedEventWaitTimeout 5), .go, .go, .go]

/-- In the first run the wait of task 0 returns 0, though a signal has ended it at once. In the
second it returns 1, though there was no signal. -/
theorem signal_swallowed : ¬ lateRun.Accounted 0 .go ∧ ¬ aloneRun.Accounted 0 .go := by
  have hlate : (lateRun.step 0 .go).2 = some (0, false) ∧ lateRun.kernel.pc 0 = .deadline 5 .own ∧
      lateRun.woken 0 = true := by
    decide +kernel
  have halone : (aloneRun.step 0 .go).2 = some (0, true) ∧
      aloneRun.kernel.pc 0 = .deadline 5 .own ∧ aloneRun.woken 0 = false := by
    decide +kernel
  constructor
  · intro h
    have hfor := (h.result 0 false hlate.1).2
    rw [SignalFor, hlate.2.1] at hfor
    exact absurd (hfor hlate.2.2) Bool.false_ne_true
  · intro h
    have hfor := (h.result 0 true halone.1).1 rfl
    rw [SignalFor, halone.2.1] at hfor
    exact absurd (halone.2.2.symm.trans hfor) Bool.false_ne_true

end NeuroSpark
