import Mathlib
import NeuroSpark.Ai.Runtime
import NeuroSpark.Lib.Machine

/-!
# Training

The trainer of `ai_train.c`: it moves the bias of a model in small steps, goes back when the bias
drifts too far, and keeps a checkpoint in a file. Signed arithmetic wraps around.
-/

namespace NeuroSpark.Ai

structure AiTrainStats where
  active : Bool
  paused : Bool
  totalSteps : UInt32
  checkpoints : UInt32
  rollbacks : UInt32
  divergenceEvents : UInt32
  driftAlarms : UInt32
  learningRatePpm : UInt32
  maxDrift : UInt32
  currentBias : Int32
  checkpointBias : Int32
  modelName : ModelName

/-- What `/ai_train.ckpt` holds. -/
structure AiTrainCheckpoint where
  magic : UInt32
  version : UInt32
  totalSteps : UInt32
  learningRatePpm : UInt32
  maxDrift : UInt32
  currentBias : Int32
  checkpointBias : Int32
  modelName : ModelName

/-- The trainer, with the models and the checkpoint file, which may be missing. -/
structure AiTrainer where
  train : AiTrainStats
  runtime : AiRuntime
  file : Option AiTrainCheckpoint

def aiTrainCkptMagic : UInt32 := 0x314B5043

def absI32 (v : Int32) : Int32 := if v < 0 then -v else v

namespace AiTrainer

variable (s : AiTrainer)

/-- `ai_train_save_checkpoint`; a write that fails leaves the file as it is. -/
def aiTrainSaveCheckpoint (writes : Bool) : AiTrainer :=
  if writes then
    { s with
      file := some
        { magic := aiTrainCkptMagic
          version := 1
          totalSteps := s.train.totalSteps
          learningRatePpm := s.train.learningRatePpm
          maxDrift := s.train.maxDrift
          currentBias := s.train.currentBias
          checkpointBias := s.train.checkpointBias
          modelName := s.train.modelName } }
  else s

/-- The bias of the trained model is set. -/
def setBias : AiTrainer × Bool :=
  let r := aiRuntimeSetModelBias s.runtime s.train.modelName.chars s.train.currentBias
  ({ s with runtime := r.1 }, r.2)

/-- The trainer goes on from a checkpoint. -/
def restore (ckpt : AiTrainCheckpoint) : AiTrainer :=
  { s with
    train.totalSteps := ckpt.totalSteps
    train.learningRatePpm := ckpt.learningRatePpm
    train.maxDrift := ckpt.maxDrift
    train.currentBias := ckpt.currentBias
    train.checkpointBias := ckpt.checkpointBias
    train.modelName := ckpt.modelName }

/-- The last test of `ai_train_load_checkpoint`. -/
def loadMatching (expectedModel : CString) (ckpt : AiTrainCheckpoint) : AiTrainer × Bool :=
  if expectedModel ≠ [] ∧ expectedModel ≠ ckpt.modelName.chars then (s, false)
  else (s.restore ckpt).setBias

/-- `ai_train_load_checkpoint`. It reads the bias of the model before it looks whose checkpoint it
is. -/
def aiTrainLoadCheckpoint (expectedModel : CString) : AiTrainer × Bool :=
  match s.file with
  | none => (s, false)
  | some ckpt =>
    if ckpt.magic ≠ aiTrainCkptMagic ∨ ckpt.version ≠ 1 then (s, false)
    else if expectedModel = [] then s.loadMatching expectedModel ckpt
    else
      match aiRuntimeGetModelBias s.runtime expectedModel with
      | none => (s, false)
      | some bias =>
        AiTrainer.loadMatching { s with train.currentBias := bias } expectedModel ckpt

/-- Training starts from the bias of a model. -/
def begin (modelName : CString) (learningRatePpm maxDrift : UInt32) (bias : Int32) : AiTrainer :=
  { s with
    train.active := true
    train.paused := false
    train.totalSteps := 0
    train.learningRatePpm := learningRatePpm
    train.maxDrift := maxDrift
    train.currentBias := bias
    train.checkpointBias := bias
    train.modelName := .copy modelName }

def aiTrainStart (modelName : CString) (learningRatePpm maxDrift : UInt32) : AiTrainer × Bool :=
  if modelName = [] then (s, false)
  else if learningRatePpm = 0 ∨ 10000 < learningRatePpm then (s, false)
  else if maxDrift < 100 ∨ 100000 < maxDrift then (s, false)
  else
    match aiRuntimeGetModelBias s.runtime modelName with
    | none => (s, false)
    | some bias =>
      (((s.begin modelName learningRatePpm maxDrift bias).aiTrainLoadCheckpoint modelName).1, true)

end AiTrainer

/-- The bias has drifted too far and goes back. -/
def AiTrainStats.diverge (g : AiTrainStats) : AiTrainStats :=
  { g with
    driftAlarms := g.driftAlarms + 1
    divergenceEvents := g.divergenceEvents + 1
    currentBias := g.checkpointBias
    rollbacks := g.rollbacks + 1 }

/-- How far a step moves the bias. -/
def AiTrainStats.stride (g : AiTrainStats) : UInt32 :=
  let stride := g.learningRatePpm / 100
  if stride = 0 then 1 else stride

/-- Step `i` of a call; the call is left when the bias drifts too far. -/
def AiTrainStats.moveBias (g : AiTrainStats) (i : Nat) : Except AiTrainStats AiTrainStats :=
  let dir : Int32 := if (g.totalSteps + UInt32.ofNat i) &&& 1 ≠ 0 then 1 else -1
  let g := { g with currentBias := g.currentBias + g.stride.toInt32 * dir }
  if g.maxDrift.toInt32 < absI32 (g.currentBias - g.checkpointBias) then .error g.diverge else .ok g

/-- The number of steps of a call. -/
def effectiveSteps (steps : UInt32) : UInt32 :=
  if steps = 0 then 1 else if 4096 < steps then 4096 else steps

namespace AiTrainer

variable (s : AiTrainer)

def aiTrainStep (steps : UInt32) : AiTrainer × Bool :=
  if ¬ s.train.active ∨ s.train.paused ∨ s.train.modelName.chars = [] then (s, false)
  else
    let steps := effectiveSteps steps
    match (List.range steps.toNat).foldlM AiTrainStats.moveBias s.train with
    | .error g => ((AiTrainer.setBias { s with train := g }).1, false)
    | .ok g =>
      let g := { g with totalSteps := g.totalSteps + steps }
      ((AiTrainer.setBias { s with train := g }).1, true)

def aiTrainPause : AiTrainer × Bool :=
  if ¬ s.train.active then (s, false) else ({ s with train.paused := true }, true)

def aiTrainResume : AiTrainer × Bool :=
  if ¬ s.train.active then (s, false) else ({ s with train.paused := false }, true)

def aiTrainCheckpoint (writes : Bool) : AiTrainer × Bool :=
  if ¬ s.train.active then (s, false)
  else
    let s : AiTrainer :=
      { s with
        train.checkpointBias := s.train.currentBias
        train.checkpoints := s.train.checkpoints + 1 }
    (s.aiTrainSaveCheckpoint writes, true)

def countRollback : AiTrainer := { s with train.rollbacks := s.train.rollbacks + 1 }

/-- The bias goes back to that of the last checkpoint. -/
def goBack : AiTrainer := { s with train.currentBias := s.train.checkpointBias }

def aiTrainRollback : AiTrainer × Bool :=
  if ¬ s.train.active then (s, false)
  else
    let r := s.aiTrainLoadCheckpoint s.train.modelName.chars
    if r.2 then (r.1.countRollback, true) else r.1.goBack.countRollback.setBias

end AiTrainer

def aiTrainInit : AiTrainStats :=
  ⟨false, false, 0, 0, 0, 0, 0, 100, 5000, 0, 0, ModelName.empty⟩

inductive TrainOp where
  | start (modelName : CString) (learningRatePpm maxDrift : UInt32)
  | step (steps : UInt32)
  | checkpoint (writes : Bool)
  | rollback
  | pause
  | resume

def trainStep (s : AiTrainer) : TrainOp → AiTrainer × Bool
  | .start modelName learningRatePpm maxDrift => s.aiTrainStart modelName learningRatePpm maxDrift
  | .step steps => s.aiTrainStep steps
  | .checkpoint writes => s.aiTrainCheckpoint writes
  | .rollback => s.aiTrainRollback
  | .pause => s.aiTrainPause
  | .resume => s.aiTrainResume

end NeuroSpark.Ai
