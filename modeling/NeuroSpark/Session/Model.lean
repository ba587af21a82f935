import NeuroSpark.Vfs.Types

/-!
# The neuron model parameters

The part of `model_manager.c` that a session manifest stores and restores: the neuron model of
each task, the STDP switch and the parameters of the five neurons of each task.
-/

namespace NeuroSpark

def clampI32 (value lo hi : Int32) : Int32 :=
  if value < lo then lo else if value > hi then hi else value

lemma clampI32_of_mem {value lo hi : Int32} (hlo : lo ≤ value) (hhi : value ≤ hi) :
    clampI32 value lo hi = value := by
  rw [clampI32, if_neg (Int32.not_lt.mpr hlo), if_neg (Int32.not_lt.mpr hhi)]

structure ModelNeuronParams where
  tau : Int32
  refractoryTicks : Int32
  adaptationStep : Int32
  learningRate : Int32
  weightMin : Int32
  weightMax : Int32
  deriving DecidableEq

/-- The parameters that `model_manifest_apply` leaves as they are. -/
structure ModelNeuronParams.InRange (p : ModelNeuronParams) : Prop where
  tau : 1 ≤ p.tau ∧ p.tau ≤ 8
  refractoryTicks : 1 ≤ p.refractoryTicks ∧ p.refractoryTicks ≤ 40
  adaptationStep : 10 ≤ p.adaptationStep ∧ p.adaptationStep ≤ 600
  learningRate : 1 ≤ p.learningRate ∧ p.learningRate ≤ 80
  weightMin : 1 ≤ p.weightMin ∧ p.weightMin ≤ 2000
  weightMax : 10 ≤ p.weightMax ∧ p.weightMax ≤ 4000
  ordered : p.weightMin ≤ p.weightMax

/-- The globals of the model manager. -/
structure ModelManager where
  stdpEnabled : Int32
  taskModel : Fin 2 → Int32
  params : Fin 2 → Fin 5 → ModelNeuronParams

def modelKindLif : Int32 := 0
def modelKindAdapt : Int32 := 1
def modelKindStdp : Int32 := 2

def modelManagerInit : ModelManager where
  stdpEnabled := 0
  taskModel t := if t = 0 then modelKindLif else modelKindAdapt
  params _ _ := ⟨1, 10, 200, 10, 50, 2000⟩

structure ModelManager.InRange (m : ModelManager) : Prop where
  stdpEnabled : m.stdpEnabled = 0 ∨ m.stdpEnabled = 1
  taskModel : ∀ t, modelKindLif ≤ m.taskModel t ∧ m.taskModel t ≤ modelKindStdp
  params : ∀ t n, (m.params t n).InRange

@[ext]
structure ModelManifestData where
  version : UInt32
  stdpEnabled : UInt32
  taskModel : Fin 2 → UInt32
  tau : Fin 2 → Fin 5 → Int32
  refractoryTicks : Fin 2 → Fin 5 → Int32
  adaptationStep : Fin 2 → Fin 5 → Int32
  learningRate : Fin 2 → Fin 5 → Int32
  weightMin : Fin 2 → Fin 5 → Int32
  weightMax : Fin 2 → Fin 5 → Int32

def modelManifestCapture (m : ModelManager) : ModelManifestData where
  version := 1
  stdpEnabled := if m.stdpEnabled ≠ 0 then 1 else 0
  taskModel t := (m.taskModel t).toUInt32
  tau t n := (m.params t n).tau
  refractoryTicks t n := (m.params t n).refractoryTicks
  adaptationStep t n := (m.params t n).adaptationStep
  learningRate t n := (m.params t n).learningRate
  weightMin t n := (m.params t n).weightMin
  weightMax t n := (m.params t n).weightMax

/-- The parameters clamped to their ranges, as `model_manifest_apply` stores them. -/
def ModelNeuronParams.clamped (p : ModelNeuronParams) : ModelNeuronParams :=
  let weightMin := clampI32 p.weightMin 1 2000
  let weightMax := clampI32 p.weightMax 10 4000
  { tau := clampI32 p.tau 1 8
    refractoryTicks := clampI32 p.refractoryTicks 1 40
    adaptationStep := clampI32 p.adaptationStep 10 600
    learningRate := clampI32 p.learningRate 1 80
    weightMin := if weightMin > weightMax then weightMax else weightMin
    weightMax := weightMax }

def ModelManifestData.params (d : ModelManifestData) (t : Fin 2) (n : Fin 5) :
    ModelNeuronParams :=
  ⟨d.tau t n, d.refractoryTicks t n, d.adaptationStep t n, d.learningRate t n,
    d.weightMin t n, d.weightMax t n⟩

def modelManifestApply (m : ModelManager) (d : ModelManifestData) : ModelManager :=
  if d.version ≠ 1 then m
  else
    { stdpEnabled := if d.stdpEnabled ≠ 0 then 1 else 0
      taskModel := fun t =>
        let tm := (d.taskModel t).toInt32
        if tm < modelKindLif ∨ tm > modelKindStdp then modelKindLif else tm
      params := fun t n => (d.params t n).clamped }

lemma ModelNeuronParams.InRange.clamped_eq {p : ModelNeuronParams} (h : p.InRange) :
    p.clamped = p := by
  have hle : ¬ p.weightMin > p.weightMax := Int32.not_lt.mpr h.ordered
  unfold ModelNeuronParams.clamped
  rw [clampI32_of_mem h.tau.1 h.tau.2, clampI32_of_mem h.refractoryTicks.1 h.refractoryTicks.2,
    clampI32_of_mem h.adaptationStep.1 h.adaptationStep.2,
    clampI32_of_mem h.learningRate.1 h.learningRate.2,
    clampI32_of_mem h.weightMin.1 h.weightMin.2, clampI32_of_mem h.weightMax.1 h.weightMax.2]
  simp only [if_neg hle]

/-- Applying what was captured from parameters in their ranges restores them, whatever the
parameters were in between. -/
theorem modelManifestApply_capture {m : ModelManager} (hm : m.InRange) (m' : ModelManager) :
    modelManifestApply m' (modelManifestCapture m) = m := by
  rw [modelManifestApply, if_neg (by simp [modelManifestCapture])]
  obtain ⟨stdp, taskModel, params⟩ := m
  congr 1
  · rcases hm.stdpEnabled with h | h <;> simp only at h <;> subst h <;> rfl
  · funext t
    obtain ⟨hlo, hhi⟩ := hm.taskModel t
    have hin : ¬ (taskModel t < modelKindLif ∨ taskModel t > modelKindStdp) :=
      not_or.mpr ⟨Int32.not_lt.mpr hlo, Int32.not_lt.mpr hhi⟩
    simp only [modelManifestCapture, Int32.toInt32_toUInt32, if_neg hin]
  · funext t n
    exact (hm.params t n).clamped_eq

lemma modelManagerInit_inRange : modelManagerInit.InRange := by
  refine ⟨Or.inl rfl, by decide, fun t n => ?_⟩
  constructor <;> decide +revert

end NeuroSpark
