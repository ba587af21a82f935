import Mathlib.Data.List.FinRange
import Mathlib.Logic.Function.Basic
import NeuroSpark.Lib.Machine
import NeuroSpark.Session.Model

/-!
# Setting the neuron model parameters

The calls of `model_manager.c` that change the neuron models of the tasks and their parameters. All
of them keep the parameters in the ranges that `model_manifest_apply` clamps to, so that a manifest
that was captured restores what it was captured from.
-/

namespace NeuroSpark

variable {m : ModelManager}

/-- A name or a key of the source. -/
def modelKey (s : String) : CString := s.toList.map fun c => UInt8.ofNat c.toNat

def modelNameToKind (name : CString) : Option Int32 :=
  if name = modelKey "lif" then some modelKindLif
  else if name = modelKey "adapt" then some modelKindAdapt
  else if name = modelKey "stdp" then some modelKindStdp
  else none

/-- The entries of a table of `n` that an index stands for: one, or all when it is negative. -/
def indexRange (n : Nat) (i : Int32) : Option (List (Fin n)) :=
  if i < 0 then some (List.finRange n)
  else if h : i.toInt.toNat < n then some [⟨i.toInt.toNat, h⟩]
  else none

def modelSelect (m : ModelManager) (taskId : Int32) (name : CString) : ModelManager × Bool :=
  match modelNameToKind name with
  | none => (m, false)
  | some kind =>
    match indexRange 2 taskId with
    | none => (m, false)
    | some tasks =>
      ({ m with taskModel := fun t => if t ∈ tasks then kind else m.taskModel t }, true)

/-- The branches on the key. A minimum or a maximum does not pass the other one. -/
def ModelNeuronParams.set (p : ModelNeuronParams) (key : CString) (value : Int32) :
    Option ModelNeuronParams :=
  if key = modelKey "tau" then some { p with tau := clampI32 value 1 8 }
  else if key = modelKey "refractory" ∨ key = modelKey "ref" then
    some { p with refractoryTicks := clampI32 value 1 40 }
  else if key = modelKey "adapt" ∨ key = modelKey "astp" then
    some { p with adaptationStep := clampI32 value 10 600 }
  else if key = modelKey "lr" ∨ key = modelKey "learn" then
    some { p with learningRate := clampI32 value 1 80 }
  else if key = modelKey "wmin" then
    let weightMin := clampI32 value 1 2000
    some { p with weightMin := if weightMin > p.weightMax then p.weightMax else weightMin }
  else if key = modelKey "wmax" then
    let weightMax := clampI32 value 10 4000
    some { p with weightMax := if weightMax < p.weightMin then p.weightMin else weightMax }
  else none

/-- The loop over the neurons, which ends at a key that is not known. -/
def setParams (key : CString) (value : Int32) :
    List (Fin 2 × Fin 5) → ModelManager → ModelManager × Bool
  | [], m => (m, true)
  | (t, n) :: rest, m =>
    match (m.params t n).set key value with
    | none => (m, false)
    | some p => setParams key value rest
        { m with params := Function.update m.params t (Function.update (m.params t) n p) }

def modelSetParam (m : ModelManager) (taskId neuronId : Int32) (key : CString) (value : Int32) :
    ModelManager × Bool :=
  if key = [] then (m, false)
  else
    match indexRange 2 taskId, indexRange 5 neuronId with
    | some tasks, some neurons => setParams key value (tasks ×ˢ neurons) m
    | _, _ => (m, false)

def modelSetStdp (m : ModelManager) (enabled : Int32) : ModelManager :=
  { m with stdpEnabled := if enabled ≠ 0 then 1 else 0 }

inductive ModelCall where
  | select (taskId : Int32) (name : CString)
  | setParam (taskId neuronId : Int32) (key : CString) (value : Int32)
  | setStdp (enabled : Int32)
  | manifestApply (data : ModelManifestData)

/-- A call, and whether it returns 1. -/
def modelStep (m : ModelManager) : ModelCall → ModelManager × Bool
  | .select taskId name => modelSelect m taskId name
  | .setParam taskId neuronId key value => modelSetParam m taskId neuronId key value
  | .setStdp enabled => (modelSetStdp m enabled, true)
  | .manifestApply data => (modelManifestApply m data, data.version = 1)

lemma le_clampI32 {value lo hi : Int32} (h : lo ≤ hi) : lo ≤ clampI32 value lo hi := by
  unfold clampI32
  split_ifs with hlo hhi
  · exact Int32.le_refl lo
  · exact h
  · exact Int32.not_lt.mp hlo

lemma clampI32_le {value lo hi : Int32} (h : lo ≤ hi) : clampI32 value lo hi ≤ hi := by
  unfold clampI32
  split_ifs with hlo hhi
  · exact h
  · exact Int32.le_refl hi
  · exact Int32.not_lt.mp hhi

lemma clampI32_mem (value lo hi : Int32) (h : lo ≤ hi) :
    lo ≤ clampI32 value lo hi ∧ clampI32 value lo hi ≤ hi :=
  ⟨le_clampI32 h, clampI32_le h⟩

lemma ModelNeuronParams.clamped_inRange (p : ModelNeuronParams) : p.clamped.InRange := by
  have hmin := clampI32_mem p.weightMin 1 2000 (by decide)
  have hmax := clampI32_mem p.weightMax 10 4000 (by decide)
  refine ⟨clampI32_mem _ _ _ (by decide), clampI32_mem _ _ _ (by decide),
    clampI32_mem _ _ _ (by decide), clampI32_mem _ _ _ (by decide), ?_, hmax, ?_⟩
  · simp only [clamped]
    split_ifs with hgt
    · exact ⟨Int32.le_trans (by decide) hmax.1, Int32.le_trans (Int32.le_of_lt hgt) hmin.2⟩
    · exact hmin
  · simp only [clamped]
    split_ifs with hgt
    · exact Int32.le_refl _
    · exact Int32.not_lt.mp hgt

lemma ModelNeuronParams.InRange.set {p p' : ModelNeuronParams} (h : p.InRange) {key : CString}
    {value : Int32} (hset : p.set key value = some p') : p'.InRange := by
  unfold ModelNeuronParams.set at hset
  split_ifs at hset <;> cases hset
  case pos => exact { h with tau := clampI32_mem _ _ _ (by decide) }
  case pos => exact { h with refractoryTicks := clampI32_mem _ _ _ (by decide) }
  case pos => exact { h with adaptationStep := clampI32_mem _ _ _ (by decide) }
  case pos => exact { h with learningRate := clampI32_mem _ _ _ (by decide) }
  case pos =>
    have hmin := clampI32_mem value 1 2000 (by decide)
    refine { h with weightMin := ?_, ordered := ?_ } <;> dsimp only <;> split_ifs with hgt
    · exact ⟨Int32.le_trans (by decide) h.weightMax.1, Int32.le_trans (Int32.le_of_lt hgt) hmin.2⟩
    · exact hmin
    · exact Int32.le_refl _
    · exact Int32.not_lt.mp hgt
  case pos =>
    have hmax := clampI32_mem value 10 4000 (by decide)
    refine { h with weightMax := ?_, ordered := ?_ } <;> dsimp only <;> split_ifs with hlt
    · exact ⟨Int32.le_trans hmax.1 (Int32.le_of_lt hlt), Int32.le_trans h.weightMin.2 (by decide)⟩
    · exact hmax
    · exact Int32.le_refl _
    · exact Int32.not_lt.mp hlt

lemma ModelManager.InRange.setParams (h : m.InRange) (key : CString) (value : Int32)
    (l : List (Fin 2 × Fin 5)) : (setParams key value l m).1.InRange := by
  induction l generalizing m with
  | nil => exact h
  | cons i rest ih =>
    obtain ⟨t, n⟩ := i
    rw [NeuroSpark.setParams]
    cases hset : (m.params t n).set key value with
    | none => exact h
    | some p =>
      refine ih { h with params := fun t' n' => ?_ }
      dsimp only
      by_cases ht : t' = t
      · subst ht
        rw [Function.update_self]
        by_cases hn : n' = n
        · subst hn
          rw [Function.update_self]
          exact (h.params t' n').set hset
        · rw [Function.update_of_ne hn]
          exact h.params t' n'
      · rw [Function.update_of_ne ht]
        exact h.params t' n'

lemma modelNameToKind_mem {name : CString} {kind : Int32} (h : modelNameToKind name = some kind) :
    modelKindLif ≤ kind ∧ kind ≤ modelKindStdp := by
  unfold modelNameToKind at h
  split_ifs at h <;> cases h <;> decide

lemma ModelManager.InRange.select (h : m.InRange) (taskId : Int32)
    (name : CString) : (modelSelect m taskId name).1.InRange := by
  unfold modelSelect
  cases hkind : modelNameToKind name with
  | none => exact h
  | some kind =>
    cases indexRange 2 taskId with
    | none => exact h
    | some tasks =>
      refine { h with taskModel := fun t => ?_ }
      by_cases ht : t ∈ tasks
      · simpa only [if_pos ht] using modelNameToKind_mem hkind
      · simpa only [if_neg ht] using h.taskModel t

lemma ModelManager.InRange.apply (h : m.InRange) (d : ModelManifestData) :
    (modelManifestApply m d).InRange := by
  unfold modelManifestApply
  by_cases hversion : d.version ≠ 1
  · rwa [if_pos hversion]
  rw [if_neg hversion]
  refine ⟨?_, fun t => ?_, fun t n => ModelNeuronParams.clamped_inRange _⟩
  · by_cases hstdp : d.stdpEnabled ≠ 0
    · exact Or.inr (if_pos hstdp)
    · exact Or.inl (if_neg hstdp)
  · dsimp only
    split_ifs with hout
    · decide
    · obtain ⟨hlo, hhi⟩ := not_or.mp hout
      exact ⟨Int32.not_lt.mp hlo, Int32.not_lt.mp hhi⟩

lemma modelStep_inRange (h : m.InRange) (call : ModelCall) : (modelStep m call).1.InRange := by
  cases call with
  | select taskId name => exact h.select taskId name
  | setParam taskId neuronId key value =>
    change (modelSetParam m taskId neuronId key value).1.InRange
    unfold modelSetParam
    split_ifs
    · exact h
    cases indexRange 2 taskId with
    | none => exact h
    | some tasks =>
      cases indexRange 5 neuronId with
      | none => exact h
      | some neurons => exact h.setParams ..
  | setStdp enabled =>
    refine { h with stdpEnabled := ?_ }
    by_cases hstdp : enabled ≠ 0
    · exact Or.inr (if_pos hstdp)
    · exact Or.inl (if_neg hstdp)
  | manifestApply data => exact h.apply data

lemma modelManifestApply_idem (m : ModelManager) (d : ModelManifestData) :
    modelManifestApply (modelManifestApply m d) d = modelManifestApply m d := by
  unfold modelManifestApply
  by_cases hversion : d.version ≠ 1
  · rw [if_pos hversion, if_pos hversion]
  · rw [if_neg hversion, if_neg hversion]

/-- What was captured is restored, whatever is called before and after, and data can be applied
twice. -/
theorem manifest_survives (before after : List ModelCall) :
    modelStep (Machine.run modelStep modelManagerInit (before ++ after))
        (.manifestApply (modelManifestCapture (Machine.run modelStep modelManagerInit before))) =
      (Machine.run modelStep modelManagerInit before, true) ∧
    ∀ m d, modelManifestApply (modelManifestApply m d) d = modelManifestApply m d := by
  refine ⟨?_, modelManifestApply_idem⟩
  have hrange : (Machine.run modelStep modelManagerInit before).InRange :=
    Machine.run_invariant' (I := ModelManager.InRange) (fun _ call h => modelStep_inRange h call)
      modelManagerInit_inRange before
  have hrestored := modelManifestApply_capture hrange
    (Machine.run modelStep modelManagerInit (before ++ after))
  exact Prod.ext hrestored rfl

end NeuroSpark
