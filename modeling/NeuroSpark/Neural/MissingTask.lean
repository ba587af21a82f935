import NeuroSpark.Neural.Range

/-!
# Pixels without a task

`timer_handler` and `update_monitor` look up the task of a pixel and use what they find. A session
manifest may assign any pixels to the tasks, so that a pixel is left without one; this is when the
timer interrupt follows a null pointer.
-/

namespace NeuroSpark

variable {i : Fin 5} {p : Fin 2} {tick : UInt32} {s s' : Engine} {task : Option TaskControlBlock}
  {r r' : ModelManager × NeuralPixel}

lemma timerNeuron_eq_none (tick : UInt32) :
    timerNeuron tick task r i = none ↔ task = none ∧ (r.2.neurons i).refractoryTimer ≤ 0 := by
  obtain ⟨m, x⟩ := r
  simp only [timerNeuron]
  by_cases hticks : (x.neurons i).refractoryTimer > 0
  · simp [hticks]
  · rw [if_neg hticks, Option.map_eq_none_iff, and_iff_left (Int32.not_lt.1 hticks)]

lemma timerNeuron_none_other (h : timerNeuron tick none r i = some r') {j : Fin 5} (hj : j ≠ i) :
    r'.2.neurons j = r.2.neurons j := by
  obtain ⟨m, x⟩ := r
  simp only [timerNeuron, Option.map_none] at h
  split_ifs at h
  obtain rfl := Option.some.inj h
  simp [hj]

lemma foldlM_timerNeuron (task : Option TaskControlBlock) {l : List (Fin 5)} (hl : l.Nodup)
    (r : ModelManager × NeuralPixel) :
    l.foldlM (timerNeuron tick task) r = none ↔
      task = none ∧ ∃ i ∈ l, (r.2.neurons i).refractoryTimer ≤ 0 := by
  induction l generalizing r with
  | nil => simp
  | cons i l ih =>
    obtain ⟨hi, hl⟩ := List.nodup_cons.1 hl
    rw [List.foldlM_cons, List.exists_mem_cons_iff, and_or_left, ← timerNeuron_eq_none tick]
    cases hround : timerNeuron tick task r i with
    | none => simp
    | some r' =>
      simp only [Option.bind_eq_bind, Option.bind_some, ih hl, reduceCtorEq, false_or]
      refine and_congr_right fun htask => exists_congr fun j => and_congr_right fun hj => ?_
      have hne : j ≠ i := fun h => hi (h ▸ hj)
      subst htask
      rw [timerNeuron_none_other hround hne]

lemma timerPixel_eq_none : timerPixel s p = none ↔
    taskOfPixel s.taskList p = none ∧ ∃ i, ((s.osMemoryMap p).neurons i).refractoryTimer ≤ 0 := by
  simp [timerPixel, foldlM_timerNeuron _ (List.nodup_finRange 5)]

lemma timerPixel_frame (h : timerPixel s p = some s') :
    s'.taskList = s.taskList ∧ s'.tick = s.tick ∧
      ∀ q, q ≠ p → s'.osMemoryMap q = s.osMemoryMap q := by
  obtain ⟨r, -, rfl⟩ := Option.map_eq_some_iff.1 h
  exact ⟨rfl, rfl, fun q hq => Function.update_of_ne hq ..⟩

lemma monitorPixel_eq_none : monitorPixel s p = none ↔ taskOfPixel s.taskList p = none := by
  simp [monitorPixel]

lemma taskOfPixel_congr {l l' : Fin 2 → TaskControlBlock}
    (h : ∀ t, (l' t).targetPixel = (l t).targetPixel) : taskOfPixel l' p = taskOfPixel l p := by
  simp only [taskOfPixel, h]

lemma taskOfPixel_of_monitorPixel (h : monitorPixel s p = some s') (q : Fin 2) :
    taskOfPixel s'.taskList q = taskOfPixel s.taskList q := by
  obtain ⟨t, -, rfl⟩ := Option.map_eq_some_iff.1 h
  refine taskOfPixel_congr fun u => ?_
  by_cases hu : u = t
  · subst hu
    simp
  · simp [Function.update_of_ne hu]

lemma foldlM_pixels {f : Engine → Fin 2 → Option Engine} {P : Fin 2 → Prop}
    (h0 : f s 0 = none ↔ P 0) (h1 : ∀ s', f s 0 = some s' → (f s' 1 = none ↔ P 1)) :
    (List.finRange 2).foldlM f s = none ↔ ∃ p, P p := by
  rw [Fin.exists_fin_two, ← h0]
  change (f s 0 >>= fun s' => f s' 1 >>= pure) = none ↔ _
  cases hf : f s 0 with
  | none => simp
  | some s' => simpa using h1 s' hf

lemma foldlM_timerPixel_eq_none : (List.finRange 2).foldlM timerPixel s = none ↔
    ∃ p, taskOfPixel s.taskList p = none ∧
      ∃ i, ((s.osMemoryMap p).neurons i).refractoryTimer ≤ 0 := by
  refine foldlM_pixels timerPixel_eq_none fun s' h => ?_
  obtain ⟨htasks, -, hpixels⟩ := timerPixel_frame h
  rw [timerPixel_eq_none, htasks, hpixels 1 (by decide)]

lemma foldlM_timerPixel_frame (h : (List.finRange 2).foldlM timerPixel s = some s') :
    s'.taskList = s.taskList ∧ s'.tick = s.tick := by
  change (timerPixel s 0 >>= fun s' => timerPixel s' 1 >>= pure) = some s' at h
  obtain ⟨s₁, h₁, h⟩ := Option.bind_eq_some_iff.1 h
  obtain ⟨s₂, h₂, h⟩ := Option.bind_eq_some_iff.1 h
  obtain rfl := Option.some.inj h
  obtain ⟨htasks₁, htick₁, -⟩ := timerPixel_frame h₁
  obtain ⟨htasks₂, htick₂, -⟩ := timerPixel_frame h₂
  exact ⟨htasks₂.trans htasks₁, htick₂.trans htick₁⟩

lemma updateMonitor_eq_none : updateMonitor s = none ↔ ∃ p, taskOfPixel s.taskList p = none := by
  refine foldlM_pixels monitorPixel_eq_none fun s' h => ?_
  rw [monitorPixel_eq_none, taskOfPixel_of_monitorPixel h]

lemma globalDecay_frame :
    (globalDecay s).taskList = s.taskList ∧ (globalDecay s).tick = s.tick := by
  unfold globalDecay
  split_ifs <;> exact ⟨rfl, rfl⟩

/-- The timer interrupt follows a null pointer exactly when a pixel has no task and has a neuron
that is not refractory, or the monitor is due. -/
theorem timerHandler_faults_iff (s : Engine) : timerHandler s = none ↔
    ∃ p, taskOfPixel s.taskList p = none ∧
      ((∃ i, ((s.osMemoryMap p).neurons i).refractoryTimer ≤ 0) ∨ (s.tick + 1) % 10 = 0) := by
  have hrounds := foldlM_timerPixel_eq_none (s := { s with tick := s.tick + 1 })
  unfold timerHandler
  cases hloop : (List.finRange 2).foldlM timerPixel { s with tick := s.tick + 1 } with
  | none =>
    obtain ⟨p, htask, hneuron⟩ := hrounds.1 hloop
    exact iff_of_true rfl ⟨p, htask, Or.inl hneuron⟩
  | some s₁ =>
    have hnone := hrounds.not.1 (by rw [hloop]; exact Option.some_ne_none s₁)
    obtain ⟨htasks, htick⟩ := foldlM_timerPixel_frame hloop
    obtain ⟨hdecayed, hsame⟩ := globalDecay_frame (s := s₁)
    simp only [Option.bind_some, hsame, htick]
    by_cases hdue : (s.tick + 1) % 10 = 0
    · rw [if_pos hdue, updateMonitor_eq_none, hdecayed, htasks]
      exact exists_congr fun p => (and_iff_left (Or.inr hdue)).symm
    · rw [if_neg hdue]
      refine iff_of_false (Option.some_ne_none _) ?_
      rintro ⟨p, htask, hneuron | hmonitor⟩
      · exact hnone ⟨p, htask, hneuron⟩
      · exact hdue hmonitor

end NeuroSpark
