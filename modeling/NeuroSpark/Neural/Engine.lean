import NeuroSpark.Session.Parameters

/-!
# The spiking engine

What `timer_handler` and `update_monitor` of `kernel.c` do to the neurons, the part of
`model_manager.c` they use, and `switch_tasks` of `scheduler.c`, which swaps what the two tasks
have learned. The task of a pixel is looked up and used unchecked: the result is `none` where the
code would follow a null pointer. What is drawn on the screen is left out.
-/

namespace NeuroSpark

structure Neuron where
  voltage : Int32
  spikeCount : Int32
  synapticWeight : Int32
  refractoryTimer : Int32
  dynamicThreshold : Int32

structure NeuralPixel where
  neurons : Fin 5 → Neuron
  currentPhase : UInt8

structure TaskControlBlock where
  taskId : Int32
  targetPixel : Int32
  baseIntegration : Int32
  savedVoltages : Fin 5 → Int32
  savedWeights : Fin 5 → Int32
  savedThresholds : Fin 5 → Int32
  lastSpikeCount : Int32
  spikesPerSecond : Int32

/-- The globals of the engine, and the static array of `update_monitor`. -/
structure Engine where
  tick : UInt32
  osMemoryMap : Fin 2 → NeuralPixel
  taskList : Fin 2 → TaskControlBlock
  model : ModelManager
  lastPixelTotals : Fin 2 → Int32

def NeuralPixel.set (x : NeuralPixel) (i : Fin 5) (n : Neuron) : NeuralPixel :=
  { x with neurons := Function.update x.neurons i n }

/-- `task_index_valid`. -/
def modelTask (taskId : Int32) : Option (Fin 2) :=
  if taskId = 0 then some 0 else if taskId = 1 then some 1 else none

def modelAdjustBaseGain (m : ModelManager) (taskId : Int32) (i : Fin 5) (baseGain : Int32)
    (tick : UInt32) : Int32 :=
  match modelTask taskId with
  | none => baseGain
  | some t =>
    let p := m.params t i
    let gain := baseGain / (if p.tau ≤ 0 then 1 else p.tau)
    let gain := if gain < 1 then 1 else gain
    if m.taskModel t = modelKindAdapt then gain + p.adaptationStep / 40
    else if m.taskModel t = modelKindStdp ∧ tick % 3 = 0 then gain + p.learningRate / 3
    else gain

def modelGetRefractoryTicks (m : ModelManager) (taskId : Int32) (i : Fin 5) : Int32 :=
  match modelTask taskId with
  | none => 10
  | some t =>
    let v := (m.params t i).refractoryTicks
    if v ≤ 0 then 10 else v

def modelGetThresholdRaiseStep (m : ModelManager) (taskId : Int32) (i : Fin 5) : Int32 :=
  match modelTask taskId with
  | none => 200
  | some t =>
    let p := m.params t i
    let step := if p.adaptationStep ≤ 0 then 200 else p.adaptationStep
    if m.taskModel t = modelKindLif then if step / 2 < 40 then 40 else step / 2 else step

/-- The step, and the parameters with the two defaults that the source writes back. -/
def modelGetThresholdDecayStep (m : ModelManager) (taskId : Int32) (i : Fin 5) :
    ModelManager × Int32 :=
  match modelTask taskId with
  | none => (m, 50)
  | some t =>
    let p := m.params t i
    let p := { p with
      adaptationStep := if p.adaptationStep ≤ 0 then 200 else p.adaptationStep
      learningRate := if p.learningRate ≤ 0 then 10 else p.learningRate }
    let m := { m with params := Function.update m.params t (Function.update (m.params t) i p) }
    if m.taskModel t = modelKindLif then (m, 35)
    else if m.taskModel t = modelKindStdp then (m, 45 + p.learningRate / 8)
    else (m, 50 + p.adaptationStep / 12)

/-- The weight of neuron `i` after a spike. -/
def modelOnSpike (m : ModelManager) (taskId : Int32) (x : NeuralPixel) (i : Fin 5) : NeuralPixel :=
  match modelTask taskId with
  | none => x
  | some t =>
    let p := m.params t i
    let n := x.neurons i
    let lr := if p.learningRate ≤ 0 then 1 else p.learningRate
    let lr := if m.taskModel t = modelKindLif then if lr / 2 < 1 then 1 else lr / 2 else lr
    let w := n.synapticWeight + lr
    let w :=
      if m.stdpEnabled ≠ 0 ∨ m.taskModel t = modelKindStdp then
        let prev := x.neurons (i + 4)
        let next := x.neurons (i + 1)
        let w := if prev.voltage > prev.dynamicThreshold / 2 then w + lr else w
        if next.voltage < next.dynamicThreshold / 4 then w - lr / 2 else w
      else w
    let w := if w < p.weightMin then p.weightMin else w
    let w := if w > p.weightMax then p.weightMax else w
    x.set i { n with synapticWeight := w }

/-- Integration, leakage and the decay of the weight. -/
def Neuron.integrate (n : Neuron) (tick : UInt32) (i : Fin 5) (taskId gain : Int32) : Neuron :=
  let voltage :=
    if taskId = 0 then
      if tick % (UInt32.ofNat i + 2) = 0 then n.voltage + gain else n.voltage
    else if tick % 4 = 0 then n.voltage + (gain / 2 + 10) else n.voltage
  { n with
    voltage := if voltage > 0 then voltage - 5 else voltage
    synapticWeight :=
      if tick % 100 = 0 ∧ n.synapticWeight > 100 then n.synapticWeight - 5 else n.synapticWeight }

/-- A spike of neuron `i`. Its weight goes to the voltage of the next one. -/
def NeuralPixel.fire (x : NeuralPixel) (m : ModelManager) (taskId : Int32) (i : Fin 5) :
    NeuralPixel :=
  let n := x.neurons i
  let x := x.set i { n with
    voltage := 0
    spikeCount := n.spikeCount + 1
    refractoryTimer := modelGetRefractoryTicks m taskId i
    dynamicThreshold :=
      if n.dynamicThreshold < 5000 then
        n.dynamicThreshold + modelGetThresholdRaiseStep m taskId i
      else n.dynamicThreshold }
  let next := x.neurons (i + 1)
  let x := x.set (i + 1) { next with voltage := next.voltage + (x.neurons i).synapticWeight }
  modelOnSpike m taskId x i

/-- The spike of a neuron that reaches its threshold; the threshold of another one decays. -/
def NeuralPixel.settle (x : NeuralPixel) (m : ModelManager) (tick : UInt32) (taskId : Int32)
    (i : Fin 5) (n : Neuron) : ModelManager × NeuralPixel :=
  if n.voltage ≥ n.dynamicThreshold then (m, (x.set i n).fire m taskId i)
  else if tick % 50 = 0 ∧ n.dynamicThreshold > 1000 then
    let (m, step) := modelGetThresholdDecayStep m taskId i
    (m, x.set i { n with dynamicThreshold := n.dynamicThreshold - step })
  else (m, x.set i n)

/-- The loop body of `timer_handler` for neuron `i` of a pixel. -/
def timerNeuron (tick : UInt32) (currentTask : Option TaskControlBlock)
    (s : ModelManager × NeuralPixel) (i : Fin 5) : Option (ModelManager × NeuralPixel) :=
  let (m, x) := s
  let n := x.neurons i
  if n.refractoryTimer > 0 then
    some (m, x.set i { n with refractoryTimer := n.refractoryTimer - 1, voltage := 0 })
  else
    currentTask.map fun task =>
      let baseGain := if x.currentPhase = 1 then 10 else task.baseIntegration
      let gain := modelAdjustBaseGain m task.taskId i baseGain tick
      x.settle m tick task.taskId i (n.integrate tick i task.taskId gain)

/-- The first task that is assigned to pixel `p`. -/
def taskOfPixel (taskList : Fin 2 → TaskControlBlock) (p : Fin 2) : Option (Fin 2) :=
  (List.finRange 2).find? fun t => (taskList t).targetPixel = Int32.ofNat p

def timerPixel (s : Engine) (p : Fin 2) : Option Engine :=
  ((List.finRange 5).foldlM (timerNeuron s.tick ((taskOfPixel s.taskList p).map s.taskList))
    (s.model, s.osMemoryMap p)).map fun (m, x) =>
      { s with model := m, osMemoryMap := Function.update s.osMemoryMap p x }

def NeuralPixel.spikes (x : NeuralPixel) : Int32 :=
  ((List.finRange 5).map fun i => (x.neurons i).spikeCount).sum

def Neuron.weaken (n : Neuron) : Neuron :=
  if n.synapticWeight > 100 then { n with synapticWeight := n.synapticWeight - 10 } else n

/-- Weakens all synapses when there were more than `GLOBAL_MAX_SPIKES`. -/
def globalDecay (s : Engine) : Engine :=
  if (s.osMemoryMap 0).spikes + (s.osMemoryMap 1).spikes > 5000 then
    { s with osMemoryMap := fun p =>
      { s.osMemoryMap p with neurons := fun i => ((s.osMemoryMap p).neurons i).weaken } }
  else s

def Neuron.suppress (n : Neuron) (phase : UInt8) : Neuron :=
  if phase = 1 ∧ n.voltage > 200 then { n with voltage := n.voltage - 200 } else n

/-- The loop body of `update_monitor`. -/
def monitorPixel (s : Engine) (p : Fin 2) : Option Engine :=
  let x := s.osMemoryMap p
  let localRecent := x.spikes - s.lastPixelTotals p
  let phase : UInt8 := if localRecent > 15 / 2 then 1 else 0
  (taskOfPixel s.taskList p).map fun t =>
    { s with
      lastPixelTotals := Function.update s.lastPixelTotals p x.spikes
      taskList := Function.update s.taskList t { s.taskList t with
        spikesPerSecond := localRecent * 10
        lastSpikeCount := x.spikes }
      osMemoryMap := Function.update s.osMemoryMap p
        { currentPhase := phase
          neurons := fun i => (x.neurons i).suppress phase } }

def updateMonitor (s : Engine) : Option Engine := (List.finRange 2).foldlM monitorPixel s

def timerHandler (s : Engine) : Option Engine :=
  ((List.finRange 2).foldlM timerPixel { s with tick := s.tick + 1 }).bind fun s =>
    let s := globalDecay s
    if s.tick % 10 = 0 then updateMonitor s else some s

def TaskControlBlock.save (b : TaskControlBlock) (x : NeuralPixel) : TaskControlBlock :=
  { b with
    savedVoltages := fun n => (x.neurons n).voltage
    savedWeights := fun n => (x.neurons n).synapticWeight
    savedThresholds := fun n => (x.neurons n).dynamicThreshold }

def TaskControlBlock.restore (b : TaskControlBlock) (x : NeuralPixel) : NeuralPixel :=
  { x with neurons := fun n => { x.neurons n with
      voltage := b.savedVoltages n
      synapticWeight := b.savedWeights n
      dynamicThreshold := b.savedThresholds n } }

def savePixel (s : Engine) (p : Fin 2) : Engine :=
  match taskOfPixel s.taskList p with
  | none => s
  | some t =>
    { s with taskList := Function.update s.taskList t ((s.taskList t).save (s.osMemoryMap p)) }

def restorePixel (s : Engine) (p : Fin 2) : Engine :=
  match taskOfPixel s.taskList p with
  | none => s
  | some t =>
    { s with osMemoryMap :=
      Function.update s.osMemoryMap p ((s.taskList t).restore (s.osMemoryMap p)) }

def switchTasks (s : Engine) : Engine :=
  let s := savePixel (savePixel s 0) 1
  let s := { s with taskList := fun t =>
    if t = 0 then { s.taskList 1 with targetPixel := 0 }
    else { s.taskList 0 with targetPixel := 1 } }
  restorePixel (restorePixel s 0) 1

/-- The keys with which `keyboard_handler` raises voltages: F1, F3, and those without a meaning. -/
inductive NeuralKey where
  | f1
  | f3
  | unmapped

def stimulate (s : Engine) (p : Fin 2) (gain : Fin 5 → Int32) : Engine :=
  let x := s.osMemoryMap p
  { s with osMemoryMap := Function.update s.osMemoryMap p { x with
      neurons := fun n => { x.neurons n with voltage := (x.neurons n).voltage + gain n } } }

def keyboardHandler (s : Engine) : NeuralKey → Engine
  | .f1 => stimulate s 0 fun _ => 300
  | .f3 => stimulate s 1 fun _ => 1000
  | .unmapped => stimulate s 0 fun n => if n = 0 then 500 else 0

inductive EngineOp where
  | timer
  | model (call : ModelCall)
  | switchTasks
  | key (k : NeuralKey)

def engineStep (s : Engine) : EngineOp → Option Engine
  | .timer => timerHandler s
  | .model call => some { s with model := (modelStep s.model call).1 }
  | .switchTasks => some (switchTasks s)
  | .key k => some (keyboardHandler s k)

/-- The state after the initialisation in `kernel_main`. -/
def engineInit : Engine where
  tick := 0
  osMemoryMap _ := ⟨fun _ => ⟨0, 0, 100, 0, 1000⟩, 0⟩
  taskList t := ⟨Int32.ofNat t, Int32.ofNat t, if t = 0 then 30 else 60, fun _ => 0, fun _ => 100,
    fun _ => 1000, 0, 0⟩
  model := modelManagerInit
  lastPixelTotals _ := 0

end NeuroSpark
