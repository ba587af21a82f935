import Mathlib.Data.List.MinMax
import NeuroSpark.Sched.Model

/-!
# The choice of the next task

`scheduler_pick_next_locked` keeps the best READY task it has met on its way round the table. What
it ends with is the maximum of the effective priorities; the first task of the round that has it
wins.
-/

namespace NeuroSpark

/-- What the priority of a task is worth: its base up to 7, up to 3 more for the ticks it has
waited, and up to 2 more for having been woken. -/
def effectivePriority (tcb : Tcb) : Nat :=
  min tcb.priority.toNat 7 + min (tcb.schedWaitTicks.toNat / 16) 3 + min tcb.schedWakeBoost.toNat 2

/-- The turn of a task in the round `old + 1`, `old + 2`, …, `old`, counted from 0. -/
def Sched.turnOf (s : Sched) (old t : TaskId) : Nat :=
  (t.val + s.osTaskCount - old.val - 1) % s.osTaskCount

lemma toNat_min_uint32 (a b : UInt32) : (min a b).toNat = min a.toNat b.toNat := by
  change (if a ≤ b then a else b).toNat = _
  split_ifs with h
  · exact (min_eq_left (UInt32.le_iff_toNat_le.1 h)).symm
  · exact (min_eq_right (le_of_lt (not_le.1 fun hle => h (UInt32.le_iff_toNat_le.2 hle)))).symm

lemma toNat_schedulerEffectivePriorityLocked (tcb : Tcb) :
    (schedulerEffectivePriorityLocked tcb).toNat = effectivePriority tcb := by
  have hshift : (tcb.schedWaitTicks >>> 4).toNat = tcb.schedWaitTicks.toNat / 16 := by
    rw [UInt32.toNat_shiftRight, Nat.shiftRight_eq_div_pow]
    rfl
  have hbase : min tcb.priority.toNat (7 : UInt32).toNat ≤ 7 := min_le_right _ _
  have hwait : min (tcb.schedWaitTicks.toNat / 16) (3 : UInt32).toNat ≤ 3 := min_le_right _ _
  have hwake : min tcb.schedWakeBoost.toNat (2 : UInt32).toNat ≤ 2 := min_le_right _ _
  simp only [schedulerEffectivePriorityLocked, toNat_min_uint32, UInt32.toNat_add, hshift]
  rw [Nat.mod_eq_of_lt (a := min _ _ + min _ _) (by omega), Nat.mod_eq_of_lt (by omega)]
  refine min_eq_left ?_
  change _ ≤ 12
  omega

lemma schedulerEffectivePriorityLocked_lt (a b : Tcb) :
    schedulerEffectivePriorityLocked a < schedulerEffectivePriorityLocked b ↔
      effectivePriority a < effectivePriority b := by
  rw [UInt32.lt_iff_toNat_lt, toNat_schedulerEffectivePriorityLocked,
    toNat_schedulerEffectivePriorityLocked]

section

variable {s : Sched} {old t u : TaskId}

/-- The READY tasks in the order of the loop. -/
def Sched.readyInOrder (s : Sched) (old : TaskId) : List TaskId :=
  (s.scanOrder old).filter fun t => s.stateOf t = .ready

lemma foldl_schedulerBestStep_eq_argmax (s : Sched) (l : List TaskId) :
    l.foldl (schedulerBestStep s) none =
      (l.filter fun t => s.stateOf t = .ready).argmax fun t => effectivePriority (s.osTasks t) := by
  induction l using List.reverseRecOn with
  | nil => rfl
  | append_singleton l t ih =>
    rw [List.foldl_concat, ih, List.filter_append]
    by_cases ht : s.stateOf t = .ready
    · rw [List.filter_singleton, decide_eq_true ht, Bool.cond_true, List.argmax_concat]
      cases (l.filter fun t => s.stateOf t = .ready).argmax fun t => effectivePriority (s.osTasks t)
        with
      | none => simp only [schedulerBestStep, ht, if_true]
      | some b => simp only [schedulerBestStep, ht, if_true, schedulerEffectivePriorityLocked_lt]
    · simp [schedulerBestStep, ht]

lemma Sched.turnOf_rotate (hold : s.InTable old) {k : Nat} (hk : k < s.osTaskCount) :
    s.turnOf old (s.rotate old (k + 1)) = k := by
  have hlt : old.val < s.osTaskCount := hold
  simp only [turnOf, rotate]
  rcases Nat.lt_or_ge (old.val + (k + 1)) s.osTaskCount with h | h
  · rw [Nat.mod_eq_of_lt h, show old.val + (k + 1) + s.osTaskCount - old.val - 1 =
      k + s.osTaskCount by omega, Nat.add_mod_right, Nat.mod_eq_of_lt hk]
  · rw [Nat.mod_eq_sub_mod h, Nat.mod_eq_of_lt (a := old.val + (k + 1) - s.osTaskCount) (by omega),
      show old.val + (k + 1) - s.osTaskCount + s.osTaskCount - old.val - 1 = k by omega,
      Nat.mod_eq_of_lt hk]

lemma Sched.pairwise_turnOf (hold : s.InTable old) :
    (s.readyInOrder old).Pairwise fun t u => s.turnOf old t < s.turnOf old u := by
  refine List.Pairwise.filter _ (List.pairwise_map.2 ?_)
  refine List.Pairwise.imp_of_mem ?_ (List.pairwise_lt_range (n := s.osTaskCount))
  intro k l hk hl hkl
  rw [List.mem_range] at hk hl
  rwa [turnOf_rotate hold hk, turnOf_rotate hold hl]

lemma Sched.mem_readyInOrder (hold : s.InTable old) :
    t ∈ s.readyInOrder old ↔ s.InTable t ∧ s.stateOf t = .ready := by
  rw [readyInOrder, List.mem_filter, decide_eq_true_iff]
  exact and_congr_left' ⟨inTable_of_mem_scanOrder, mem_scanOrder hold⟩

lemma turn_le_of_idxOf_le {α : Type*} [DecidableEq α] {turn : α → Nat} {l : List α}
    (hl : l.Pairwise fun a b => turn a < turn b) {a b : α} (ha : a ∈ l) (hb : b ∈ l)
    (hle : l.idxOf a ≤ l.idxOf b) : turn a ≤ turn b := by
  rcases hle.eq_or_lt with heq | hlt
  · rw [(List.idxOf_inj ha).1 heq]
  · have h := List.pairwise_iff_getElem.1 hl _ _ (List.idxOf_lt_length_iff.2 ha)
      (List.idxOf_lt_length_iff.2 hb) hlt
    rw [List.getElem_idxOf, List.getElem_idxOf] at h
    exact h.le

end

/-- If any task is READY, the next task is one that is READY, its effective priority is the highest
of all READY tasks, and among those with this priority its turn comes first. -/
theorem schedulerPickNextLocked_best (s : Sched) {old : TaskId} (hold : s.InTable old)
    (hready : ∃ t, s.InTable t ∧ s.stateOf t = .ready) :
    let next := schedulerPickNextLocked s old
    s.InTable next ∧ s.stateOf next = .ready ∧
      (∀ t, s.InTable t → s.stateOf t = .ready →
        effectivePriority (s.osTasks t) ≤ effectivePriority (s.osTasks next)) ∧
      ∀ t, s.InTable t → s.stateOf t = .ready →
        effectivePriority (s.osTasks t) = effectivePriority (s.osTasks next) →
          s.turnOf old next ≤ s.turnOf old t := by
  have hloop := foldl_schedulerBestStep_eq_argmax s (s.scanOrder old)
  obtain ⟨u, hu, hstate⟩ := hready
  have hmem := (Sched.mem_readyInOrder hold).2 ⟨hu, hstate⟩
  obtain ⟨best, hbest⟩ : ∃ best, (s.readyInOrder old).argmax
      (fun t => effectivePriority (s.osTasks t)) = some best := by
    refine Option.ne_none_iff_exists'.1 fun hnone => ?_
    rw [List.argmax_eq_none.1 hnone] at hmem
    cases hmem
  have hnext : schedulerPickNextLocked s old = best := by
    rw [schedulerPickNextLocked, hloop.trans hbest]
  rw [hnext]
  obtain ⟨hin, hmax, hfirst⟩ := List.mem_argmax_iff.1 hbest
  obtain ⟨htable, hst⟩ := (Sched.mem_readyInOrder hold).1 hin
  refine ⟨htable, hst, fun t ht hr => ?_, fun t ht hr heq => ?_⟩
  · exact hmax t ((Sched.mem_readyInOrder hold).2 ⟨ht, hr⟩)
  · have hmemt := (Sched.mem_readyInOrder hold).2 ⟨ht, hr⟩
    exact turn_le_of_idxOf_le (Sched.pairwise_turnOf hold) hin hmemt (hfirst t hmemt heq.ge)

/-- Two tasks of the same priority have just been created. Of these, task 0 gives way to task 1. -/
theorem schedulerPickNextLocked_best_created :
    let s := createTask 2 (-1) (createTask 1 (-1) Sched.boot)
    schedulerPickNextLocked s 0 = 1 ∧ s.turnOf 0 (schedulerPickNextLocked s 0) ≤ s.turnOf 0 2 := by
  intro s
  obtain ⟨-, -, -, hturn⟩ := schedulerPickNextLocked_best s (show s.InTable 0 by decide)
    ⟨1, by decide, by decide⟩
  have hnext : schedulerPickNextLocked s 0 = 1 := by decide
  exact ⟨hnext, hturn 2 (by decide) (by decide) (by rw [hnext]; decide)⟩

end NeuroSpark
