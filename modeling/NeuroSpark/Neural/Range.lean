import NeuroSpark.Lib.Loops
import NeuroSpark.Lib.Signed
import NeuroSpark.Neural.Engine

/-!
# The operating range of the spiking engine

A voltage grows by what is integrated and by the weights of neurons that fire, a threshold with
every spike, and a weight as the models learn. None of the three leaves its range: a neuron that
reaches its threshold starts again from zero, and receives the weight of one other neuron before its
next turn. Only the keyboard can raise voltages further.
-/

namespace NeuroSpark

/-- The range of a voltage, a weight and a threshold; the voltage is at most `hi`, as long as the
keyboard is `calm`. -/
structure InOperatingRange (calm : Prop) (hi voltage weight threshold : Int32) : Prop where
  voltage : calm → -4 ≤ voltage ∧ voltage ≤ hi
  weight : 1 ≤ weight ∧ weight ≤ 4000
  threshold : 901 ≤ threshold ∧ threshold ≤ 5599

/-- A neuron in its range, with a voltage of at most `hi`. -/
structure Neuron.Below (calm : Prop) (hi : Int32) (n : Neuron) : Prop
    extends InOperatingRange calm hi n.voltage n.synapticWeight n.dynamicThreshold where
  refractory : 0 ≤ n.refractoryTimer ∧ n.refractoryTimer ≤ 40

structure TaskControlBlock.InRange (calm : Prop) (b : TaskControlBlock) : Prop where
  taskId : b.taskId = 0 ∨ b.taskId = 1
  baseIntegration : -1073741824 ≤ b.baseIntegration ∧ b.baseIntegration ≤ 1073741824
  saved : ∀ n, InOperatingRange calm 9598 (b.savedVoltages n) (b.savedWeights n) (b.savedThresholds n)

structure Engine.InRange (calm : Prop) (s : Engine) : Prop where
  pixels : ∀ p : Fin 2, ∃ t, (s.taskList t).targetPixel = Int32.ofNat p
  tasks : ∀ t, (s.taskList t).InRange calm
  neurons : ∀ p i, ((s.osMemoryMap p).neurons i).Below calm 9598
  model : s.model.InRange

variable {calm : Prop} {m : ModelManager} {taskId gain hi : Int32} {i : Fin 5} {t p : Fin 2}
  {n : Neuron}
  {x : NeuralPixel} {b : TaskControlBlock} {s : Engine}

/-! ### The models -/

lemma modelTask_of_mem (h : taskId = 0 ∨ taskId = 1) : ∃ t, modelTask taskId = some t := by
  rcases h with rfl | rfl
  · exact ⟨0, rfl⟩
  · exact ⟨1, rfl⟩

lemma ModelNeuronParams.InRange.pos {p : ModelNeuronParams} (h : p.InRange) :
    ¬ p.tau ≤ 0 ∧ ¬ p.refractoryTicks ≤ 0 ∧ ¬ p.adaptationStep ≤ 0 ∧ ¬ p.learningRate ≤ 0 := by
  obtain ⟨htau, hticks, hadapt, hlr, -, -, -⟩ := h
  grind

lemma ModelNeuronParams.InRange.adaptationStep_div {p : ModelNeuronParams} (h : p.InRange)
    {k c : Int32} (hk : 1 ≤ k) (hc : 600 ≤ c.toInt * k.toInt) :
    0 ≤ p.adaptationStep / k ∧ p.adaptationStep / k ≤ c :=
  Signed.div_bounds ⟨Int32.le_trans (by decide) h.adaptationStep.1, h.adaptationStep.2⟩ hk hc

lemma ModelNeuronParams.InRange.learningRate_div {p : ModelNeuronParams} (h : p.InRange)
    {k c : Int32} (hk : 1 ≤ k) (hc : 80 ≤ c.toInt * k.toInt) :
    0 ≤ p.learningRate / k ∧ p.learningRate / k ≤ c :=
  Signed.div_bounds ⟨Int32.le_trans (by decide) h.learningRate.1, h.learningRate.2⟩ hk hc

section

variable (hm : m.InRange) (htask : modelTask taskId = some t)
include hm htask

lemma modelAdjustBaseGain_bounds (hgain : gain ≤ 1073741824) (tick : UInt32) :
    1 ≤ modelAdjustBaseGain m taskId i gain tick ∧
      modelAdjustBaseGain m taskId i gain tick ≤ 1073741851 := by
  have hp := hm.params t i
  have hdiv := Signed.div_le_of_le hgain (by decide) hp.tau.1
  have hadapt := hp.adaptationStep_div (k := 40) (c := 15) (by decide) (by decide)
  have hlr := hp.learningRate_div (k := 3) (c := 27) (by decide) (by decide)
  simp only [modelAdjustBaseGain, htask, if_neg hp.pos.1]
  grind

lemma modelGetRefractoryTicks_bounds :
    0 ≤ modelGetRefractoryTicks m taskId i ∧ modelGetRefractoryTicks m taskId i ≤ 40 := by
  have hticks := (hm.params t i).refractoryTicks
  simp only [modelGetRefractoryTicks, htask]
  grind

lemma modelGetThresholdRaiseStep_bounds :
    0 ≤ modelGetThresholdRaiseStep m taskId i ∧ modelGetThresholdRaiseStep m taskId i ≤ 600 := by
  have hp := hm.params t i
  have hstep := hp.adaptationStep
  have hhalf := hp.adaptationStep_div (k := 2) (c := 300) (by decide) (by decide)
  simp only [modelGetThresholdRaiseStep, htask, if_neg hp.pos.2.2.1]
  grind

lemma modelGetThresholdDecayStep_eq :
    ∃ step, modelGetThresholdDecayStep m taskId i = (m, step) ∧ 0 ≤ step ∧ step ≤ 100 := by
  have hp := hm.params t i
  have hadapt := hp.adaptationStep_div (k := 12) (c := 50) (by decide) (by decide)
  have hlr := hp.learningRate_div (k := 8) (c := 10) (by decide) (by decide)
  simp only [modelGetThresholdDecayStep, htask, if_neg hp.pos.2.2.1, if_neg hp.pos.2.2.2,
    Function.update_eq_self]
  split_ifs
  · exact ⟨_, rfl, by decide⟩
  · exact ⟨_, rfl, by grind⟩
  · exact ⟨_, rfl, by grind⟩

omit hm htask in
lemma Neuron.Below.mono {lo : Int32} (h : n.Below calm lo) (hle : lo ≤ hi) : n.Below calm hi :=
  { h with voltage := fun hc => ⟨(h.voltage hc).1, Int32.le_trans (h.voltage hc).2 hle⟩ }

lemma modelOnSpike_eq :
    ∃ w, modelOnSpike m taskId x i = x.set i { x.neurons i with synapticWeight := w } ∧
      1 ≤ w ∧ w ≤ 4000 := by
  have hmin := (hm.params t i).weightMin
  have hmax := (hm.params t i).weightMax
  simp only [modelOnSpike, htask]
  refine ⟨_, rfl, ?_⟩
  grind

end

lemma leak_bounds {v : Int32} (h : -4 ≤ v ∧ v ≤ 1073755449) :
    -4 ≤ (if v > 0 then v - 5 else v) ∧ (if v > 0 then v - 5 else v) ≤ 1073755449 := by
  grind

lemma Neuron.Below.integrate (h : n.Below calm 13598) (hgain : 1 ≤ gain ∧ gain ≤ 1073741851)
    (tick : UInt32) (i : Fin 5) (taskId : Int32) :
    (n.integrate tick i taskId gain).Below calm 1073755449 := by
  have hhalf := Signed.div_bounds (a := gain) (b := 2) (c := 536870926) (d := 1073741851)
    ⟨by grind, hgain.2⟩ (by decide) (by decide)
  have hw := h.weight
  refine ⟨⟨fun hc => leak_bounds ?_, ?_, h.threshold⟩, h.refractory⟩
  · have hv := h.voltage hc
    split_ifs <;> grind
  · dsimp only [Neuron.integrate]
    split_ifs <;> grind

/-- What a round leaves behind: neuron `i` is below the threshold, and the next one has received a
weight at most. -/
structure Round (calm : Prop) (i : Fin 5) (x x' : NeuralPixel) : Prop where
  own : (x'.neurons i).Below calm 5598
  next : ∀ hi, 0 ≤ hi ∧ hi ≤ 9598 → (x.neurons (i + 1)).Below calm hi →
    (x'.neurons (i + 1)).Below calm (hi + 4000)
  others : ∀ j, j ≠ i → j ≠ i + 1 → x'.neurons j = x.neurons j

@[simp] lemma NeuralPixel.neurons_set (x : NeuralPixel) (i : Fin 5) (n : Neuron) (j : Fin 5) :
    (x.set i n).neurons j = if j = i then n else x.neurons j :=
  Function.update_apply ..

lemma next_ne (i : Fin 5) : i + 1 ≠ i := by decide +revert

lemma Round.set (hn : n.Below calm 5598) : Round calm i x (x.set i n) where
  own := by simpa using hn
  next hi hle h := by simpa [next_ne] using h.mono (by grind)
  others j hj _ := by simp [hj]

lemma raised_bounds {v step : Int32} (hv : 901 ≤ v ∧ v ≤ 5599) (hstep : 0 ≤ step ∧ step ≤ 600) :
    901 ≤ (if v < 5000 then v + step else v) ∧ (if v < 5000 then v + step else v) ≤ 5599 := by
  grind

lemma Round.fire (hn : n.Below calm 1073755449) (hm : m.InRange)
    (htask : modelTask taskId = some t) : Round calm i x ((x.set i n).fire m taskId i) := by
  have hraised := raised_bounds hn.threshold (modelGetThresholdRaiseStep_bounds (i := i) hm htask)
  have hticks := modelGetRefractoryTicks_bounds (i := i) hm htask
  unfold NeuralPixel.fire
  obtain ⟨w, hw, hweight⟩ := modelOnSpike_eq (i := i) hm htask
  rw [hw]
  constructor
  · have hzero : (-4 : Int32) ≤ 0 ∧ (0 : Int32) ≤ 5598 := by decide
    simp only [NeuralPixel.neurons_set, if_true, if_neg (next_ne i).symm]
    exact ⟨⟨fun _ => hzero, hweight, hraised⟩, hticks⟩
  · intro hi hle h
    have hweight := hn.weight
    simp only [NeuralPixel.neurons_set, if_true, if_neg (next_ne i), if_neg (next_ne i).symm]
    refine { h with voltage := fun hc => ?_ }
    have hv := h.voltage hc
    grind
  · intro j hj hj'
    simp [hj, hj']

lemma Round.settle (hn : n.Below calm 1073755449) (hm : m.InRange)
    (htask : modelTask taskId = some t) (tick : UInt32) :
    ∃ x', x.settle m tick taskId i n = (m, x') ∧ Round calm i x x' := by
  have hth := hn.threshold
  unfold NeuralPixel.settle
  split_ifs with hfire hdecay
  · exact ⟨_, rfl, Round.fire hn hm htask⟩
  · obtain ⟨step, hstep, hbounds⟩ := modelGetThresholdDecayStep_eq (i := i) hm htask
    rw [hstep]
    have hvoltage : calm → -4 ≤ n.voltage ∧ n.voltage ≤ 5598 :=
      fun hc => ⟨(hn.voltage hc).1, by grind⟩
    have hdecayed : 901 ≤ n.dynamicThreshold - step ∧ n.dynamicThreshold - step ≤ 5599 := by grind
    exact ⟨_, rfl, Round.set ⟨⟨hvoltage, hn.weight, hdecayed⟩, hn.refractory⟩⟩
  · have hvoltage : calm → -4 ≤ n.voltage ∧ n.voltage ≤ 5598 :=
      fun hc => ⟨(hn.voltage hc).1, by grind⟩
    exact ⟨_, rfl, Round.set { hn with voltage := hvoltage }⟩

lemma timerNeuron_round (hm : m.InRange) (hb : b.InRange calm) (hx : (x.neurons i).Below calm 13598)
    (tick : UInt32) : ∃ x', timerNeuron tick (some b) (m, x) i = some (m, x') ∧ Round calm i x x' := by
  unfold timerNeuron
  by_cases hticks : (x.neurons i).refractoryTimer > 0
  · have hr := hx.refractory
    have hzero : (-4 : Int32) ≤ 0 ∧ (0 : Int32) ≤ 5598 := by decide
    exact ⟨_, if_pos hticks, Round.set ⟨⟨fun _ => hzero, hx.weight, hx.threshold⟩, by grind⟩⟩
  · obtain ⟨t, htask⟩ := modelTask_of_mem hb.taskId
    have hbase : (if x.currentPhase = 1 then 10 else b.baseIntegration) ≤ 1073741824 := by
      have hbounds := hb.baseIntegration
      grind
    have hgain := modelAdjustBaseGain_bounds (i := i) hm htask hbase tick
    dsimp only
    rw [if_neg hticks, Option.map_some]
    generalize modelAdjustBaseGain m b.taskId i _ tick = gain at hgain ⊢
    have hn := hx.integrate hgain tick i b.taskId
    obtain ⟨x', hsettle, hround⟩ := Round.settle (x := x) hn hm htask tick
    exact ⟨x', congrArg some hsettle, hround⟩

/-- The bound of neuron `j` before round `k`. -/
def reach (k : Nat) (j : Fin 5) : Int32 :=
  if k = 5 then 9598 else if j < k then 5598 else if j = k then 13598 else 9598

lemma reach_own : ∀ i : Fin 5, 5598 ≤ reach (i + 1) i := by decide

lemma reach_turn : ∀ i : Fin 5, reach i i ≤ 13598 := by decide

lemma reach_next : ∀ i : Fin 5,
    (0 ≤ reach i (i + 1) ∧ reach i (i + 1) ≤ 9598) ∧ reach i (i + 1) + 4000 ≤
      reach (i + 1) (i + 1) := by decide

lemma reach_others : ∀ i j : Fin 5, j ≠ i → j ≠ i + 1 → reach i j ≤ reach (i + 1) j := by decide

lemma Round.reach {x' : NeuralPixel} (h : Round calm i x x')
    (hx : ∀ j, (x.neurons j).Below calm (reach i j)) (j : Fin 5) :
    (x'.neurons j).Below calm (reach (i + 1) j) := by
  by_cases hi : j = i
  · subst hi
    exact h.own.mono (reach_own j)
  by_cases hnext : j = i + 1
  · subst hnext
    exact (h.next _ (reach_next i).1 (hx (i + 1))).mono (reach_next i).2
  · rw [h.others j hi hnext]
    exact (hx j).mono (reach_others i j hi hnext)

/-! ### The engine -/

section

variable (h : s.InRange calm)
include h

lemma taskOfPixel_eq (p : Fin 2) : ∃ t, taskOfPixel s.taskList p = some t := by
  obtain ⟨t, ht⟩ := h.pixels p
  refine Option.isSome_iff_exists.1 (List.find?_isSome.2 ⟨t, List.mem_finRange t, ?_⟩)
  simpa using ht

lemma Engine.InRange.setPixel (hx : ∀ i, (x.neurons i).Below calm 9598)
    (p : Fin 2) : Engine.InRange calm { s with osMemoryMap := Function.update s.osMemoryMap p x } where
  pixels := h.pixels
  tasks := h.tasks
  model := h.model
  neurons q i := by
    by_cases hq : q = p
    · subst hq
      simpa using hx i
    · simpa [Function.update_of_ne hq] using h.neurons q i

lemma Engine.InRange.setTask (hb : b.InRange calm) {t : Fin 2}
    (htarget : b.targetPixel = (s.taskList t).targetPixel) :
    Engine.InRange calm { s with taskList := Function.update s.taskList t b } where
  pixels p := by
    obtain ⟨u, hu⟩ := h.pixels p
    refine ⟨u, ?_⟩
    by_cases ht : u = t
    · subst ht
      simpa [htarget] using hu
    · simpa [Function.update_of_ne ht] using hu
  tasks u := by
    by_cases ht : u = t
    · subst ht
      simpa using hb
    · simpa [Function.update_of_ne ht] using h.tasks u
  model := h.model
  neurons := h.neurons

lemma Engine.InRange.timerPixel (p : Fin 2) : ∃ s', timerPixel s p = some s' ∧ s'.InRange calm := by
  obtain ⟨t, ht⟩ := taskOfPixel_eq h p
  obtain ⟨⟨m, x⟩, hloop, rfl, hx⟩ := Loop.foldlM_finRange
    (f := timerNeuron s.tick (some (s.taskList t)))
    (I := fun k r => r.1 = s.model ∧ ∀ j, (r.2.neurons j).Below calm (reach k j))
    (fun i r hr => by
      obtain ⟨m, x⟩ := r
      obtain ⟨rfl, hx⟩ := hr
      obtain ⟨x', hround, hx'⟩ := timerNeuron_round h.model (h.tasks t)
        ((hx i).mono (reach_turn i)) s.tick
      exact ⟨_, hround, rfl, hx'.reach hx⟩)
    (s := (s.model, s.osMemoryMap p))
    ⟨rfl, fun j => (h.neurons p j).mono (by decide +revert)⟩
  refine ⟨_, ?_, h.setPixel (p := p) hx⟩
  rw [NeuroSpark.timerPixel, ht, Option.map_some, hloop]
  rfl

omit h in
lemma Neuron.Below.weaken (h : n.Below calm hi) : n.weaken.Below calm hi := by
  have hw := h.weight
  unfold Neuron.weaken
  split_ifs with hheavy
  · exact { h with weight := by grind }
  · exact h

omit h in
lemma Neuron.Below.suppress (h : n.Below calm 9598) (phase : UInt8) :
    (n.suppress phase).Below calm 9598 := by
  unfold Neuron.suppress
  split_ifs with hhigh
  · refine { h with voltage := fun hc => ?_ }
    have hv := h.voltage hc
    grind
  · exact h

lemma Engine.InRange.globalDecay : (globalDecay s).InRange calm := by
  unfold NeuroSpark.globalDecay
  split_ifs
  · exact { h with neurons := fun p i => (h.neurons p i).weaken }
  · exact h

lemma Engine.InRange.monitorPixel (p : Fin 2) :
    ∃ s', monitorPixel s p = some s' ∧ s'.InRange calm := by
  obtain ⟨t, ht⟩ := taskOfPixel_eq h p
  have htask := h.setTask (t := t) (b := { s.taskList t with
    spikesPerSecond := ((s.osMemoryMap p).spikes - s.lastPixelTotals p) * 10
    lastSpikeCount := (s.osMemoryMap p).spikes }) { h.tasks t with } rfl
  unfold NeuroSpark.monitorPixel
  rw [ht]
  exact ⟨_, rfl, { htask.setPixel (x := ⟨_, _⟩) (fun i => (h.neurons p i).suppress _) p with }⟩

lemma Engine.InRange.timerHandler : ∃ s', timerHandler s = some s' ∧ s'.InRange calm := by
  obtain ⟨s₁, hloop, hs₁⟩ := Loop.foldlM_total (f := NeuroSpark.timerPixel)
    (I := Engine.InRange calm) (l := List.finRange 2) (fun _ p _ hs => hs.timerPixel p)
    (s := { s with tick := s.tick + 1 }) { h with }
  rw [NeuroSpark.timerHandler, hloop, Option.bind_some]
  dsimp only
  split_ifs
  · exact Loop.foldlM_total (fun _ p _ hs => hs.monitorPixel p) hs₁.globalDecay
  · exact ⟨_, rfl, hs₁.globalDecay⟩

lemma Engine.InRange.savePixel (p : Fin 2) : (savePixel s p).InRange calm := by
  unfold NeuroSpark.savePixel
  obtain ⟨t, ht⟩ := taskOfPixel_eq h p
  rw [ht]
  exact h.setTask (b := (s.taskList t).save (s.osMemoryMap p))
    ⟨(h.tasks t).taskId, (h.tasks t).baseIntegration,
      fun i => (h.neurons p i).toInOperatingRange⟩ rfl

lemma Engine.InRange.restorePixel (p : Fin 2) : (restorePixel s p).InRange calm := by
  unfold NeuroSpark.restorePixel
  obtain ⟨t, ht⟩ := taskOfPixel_eq h p
  rw [ht]
  exact h.setPixel (x := (s.taskList t).restore (s.osMemoryMap p))
    (fun i => ⟨(h.tasks t).saved i, (h.neurons p i).refractory⟩) p

lemma Engine.InRange.switchTasks : (switchTasks s).InRange calm := by
  have hsaved := (h.savePixel 0).savePixel 1
  unfold NeuroSpark.switchTasks
  generalize NeuroSpark.savePixel (NeuroSpark.savePixel s 0) 1 = s₁ at hsaved
  refine (Engine.InRange.restorePixel ?_ 0).restorePixel 1
  refine { hsaved with pixels := fun p => ⟨p, ?_⟩, tasks := fun t => ?_ }
  · match p with
    | 0 => rfl
    | 1 => rfl
  · match t with
    | 0 => exact { hsaved.tasks 1 with }
    | 1 => exact { hsaved.tasks 0 with }

lemma Engine.InRange.imp {calm' : Prop} (himp : calm' → calm) : s.InRange calm' where
  pixels := h.pixels
  tasks t := { h.tasks t with
    saved := fun n => { (h.tasks t).saved n with
      voltage := fun hc => ((h.tasks t).saved n).voltage (himp hc) } }
  neurons p i := { h.neurons p i with voltage := fun hc => (h.neurons p i).voltage (himp hc) }
  model := h.model

lemma Engine.InRange.stimulate (hnot : ¬ calm) (p : Fin 2)
    (gain : Fin 5 → Int32) : (stimulate s p gain).InRange calm := by
  refine h.setPixel (fun i => ?_) p
  exact { h.neurons p i with voltage := fun hc => absurd hc hnot }

end

/-- Whatever the timer, the model calls, the task switches and the keyboard do in any order, the
timer finds a task for every pixel, and weights and thresholds stay in their operating range; so do
the voltages unless a key is pressed. -/
theorem engine_stays_inRange (h : s.InRange True) (ops : List EngineOp) :
    ∃ s', ops.foldlM engineStep s = some s' ∧ s'.InRange (∀ k, .key k ∉ ops) := by
  refine Loop.foldlM_total (fun s op hop hs => ?_) (h.imp fun _ => trivial)
  cases op with
  | timer => exact hs.timerHandler
  | model call => exact ⟨_, rfl, { hs with model := modelStep_inRange hs.model call }⟩
  | switchTasks => exact ⟨_, rfl, hs.switchTasks⟩
  | key k =>
    have hnot : ¬ ∀ k, .key k ∉ ops := fun hc => hc k hop
    cases k with
    | f1 => exact ⟨_, rfl, hs.stimulate hnot 0 _⟩
    | f3 => exact ⟨_, rfl, hs.stimulate hnot 1 _⟩
    | unmapped => exact ⟨_, rfl, hs.stimulate hnot 0 _⟩

lemma engineInit_inRange : engineInit.InRange True where
  pixels p := ⟨p, rfl⟩
  tasks t := ⟨by decide +revert, by decide +revert, fun n =>
    ⟨by decide +revert, by decide +revert, by decide +revert⟩⟩
  neurons p i := ⟨⟨by decide +revert, by decide +revert, by decide +revert⟩, by decide +revert⟩
  model := modelManagerInit_inRange

/-- Three calls after the start. -/
theorem engine_stays_inRange_init : ∃ s',
    [EngineOp.timer, .model (.setStdp 1), .switchTasks].foldlM engineStep engineInit = some s' ∧
      s'.InRange (∀ k, .key k ∉ [.timer, .model (.setStdp 1), EngineOp.switchTasks]) :=
  engine_stays_inRange engineInit_inRange _

end NeuroSpark
