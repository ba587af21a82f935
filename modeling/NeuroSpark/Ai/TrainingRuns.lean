import NeuroSpark.Ai.ModelTable
import NeuroSpark.Ai.Training
import NeuroSpark.Lib.Signed

/-!
# Training runs

The trainer, the model and the checkpoint file each have a copy of the bias. They agree as long as
no bias leaves the range that the model can store, and as training is not started with parameters
other than those of a checkpoint of the same model.
-/

namespace NeuroSpark.Ai

open Signed

/-- A model can have this bias. -/
def InRange (bias : Int32) : Prop := -100000 ≤ bias.toInt ∧ bias.toInt ≤ 100000

lemma lt_iff_toInt {a b : Int32} : a < b ↔ a.toInt < b.toInt := Int32.lt_iff_toInt_lt

lemma storedBias_inRange (bias : Int32) : InRange (storedBias bias) := by
  unfold storedBias
  split_ifs with h
  · exact ⟨by decide, by decide⟩
  · rw [lt_iff_toInt, lt_iff_toInt] at h
    change ¬ (bias.toInt < -100000 ∨ 100000 < bias.toInt) at h
    exact ⟨by omega, by omega⟩

lemma clampedBias_cases (bias : Int32) :
    (InRange bias ∧ clampedBias bias = bias) ∨ (¬ InRange bias ∧ InRange (clampedBias bias)) := by
  have hlow : InRange (-100000) := ⟨by decide, by decide⟩
  have hhigh : InRange 100000 := ⟨by decide, by decide⟩
  unfold clampedBias
  by_cases hbelow : bias < -100000
  · refine Or.inr ⟨fun h => ?_, ?_⟩
    · have hlt := lt_iff_toInt.1 hbelow
      change bias.toInt < -100000 at hlt
      exact absurd h.1 (by omega)
    · simp only [if_pos hbelow]
      exact hlow
  · simp only [if_neg hbelow, gt_iff_lt]
    by_cases habove : 100000 < bias
    · refine Or.inr ⟨fun h => ?_, ?_⟩
      · have hlt := lt_iff_toInt.1 habove
        change 100000 < bias.toInt at hlt
        exact absurd h.2 (by omega)
      · rw [if_pos habove]
        exact hhigh
    · rw [if_neg habove]
      refine Or.inl ⟨?_, rfl⟩
      rw [lt_iff_toInt] at hbelow habove
      change ¬ bias.toInt < -100000 at hbelow
      change ¬ 100000 < bias.toInt at habove
      exact ⟨by omega, by omega⟩

lemma clampedBias_inRange (bias : Int32) : InRange (clampedBias bias) := by
  rcases clampedBias_cases bias with ⟨h, heq⟩ | ⟨-, h⟩
  · rw [heq]
    exact h
  · exact h

lemma clampedBias_eq_iff {bias : Int32} : clampedBias bias = bias ↔ InRange bias := by
  constructor
  · intro h
    rw [← h]
    exact clampedBias_inRange bias
  · intro h
    rcases clampedBias_cases bias with ⟨-, heq⟩ | ⟨hnot, -⟩
    · exact heq
    · exact absurd h hnot

variable {rt : AiRuntime} {name : CString} {bias : Int32}

/-- Every entry has a bias that a model can have. -/
def AiRuntime.Bounded (rt : AiRuntime) : Prop := ∀ i, InRange (rt.models i).bias

lemma findModelIndex_setBias (rt : AiRuntime) (i : Fin 8) (bias : Int32) (name : CString) :
    (rt.setModel i { rt.models i with bias := bias }).findModelIndex name =
      rt.findModelIndex name := by
  unfold AiRuntime.findModelIndex
  congr 1
  funext j
  by_cases hj : j = i
  · subst hj
    simp [AiRuntime.setModel]
  · simp [AiRuntime.setModel, hj]

lemma getModelBias_setModelBias (h : (aiRuntimeGetModelBias rt name).isSome) (bias : Int32) :
    (aiRuntimeSetModelBias rt name bias).2 = true ∧
      aiRuntimeGetModelBias (aiRuntimeSetModelBias rt name bias).1 name =
        some (clampedBias bias) := by
  obtain ⟨i, hi⟩ : ∃ i, rt.findModelIndex name = some i := by
    rw [← Option.isSome_iff_exists]
    simpa [aiRuntimeGetModelBias] using h
  have hset : aiRuntimeSetModelBias rt name bias =
      (rt.setModel i { rt.models i with bias := clampedBias bias }, true) := by
    simp only [aiRuntimeSetModelBias, hi]
  rw [hset]
  rw [aiRuntimeGetModelBias, findModelIndex_setBias, hi]
  simp [AiRuntime.setModel]

lemma AiRuntime.Bounded.setModelBias (h : rt.Bounded) (name : CString) (bias : Int32) :
    (aiRuntimeSetModelBias rt name bias).1.Bounded := by
  unfold aiRuntimeSetModelBias
  cases rt.findModelIndex name with
  | none => exact h
  | some i =>
    intro j
    by_cases hj : j = i
    · subst hj
      simpa [AiRuntime.setModel] using clampedBias_inRange bias
    · simpa [AiRuntime.setModel, hj] using h j

lemma inRange_of_getModelBias (h : rt.Bounded) (hbias : aiRuntimeGetModelBias rt name = some bias) :
    InRange bias := by
  obtain ⟨i, -, rfl⟩ := Option.map_eq_some_iff.1 hbias
  exact h i

lemma bounded_modelStep (h : rt.Bounded) (op : ModelOp) : (modelStep rt op).1.Bounded := by
  rcases modelStep_cases rt op with ⟨a, -, n, -, -, i, -, hstep⟩ | hstep
  · rw [hstep]
    intro j
    by_cases hj : j = i
    · subst hj
      simpa [AiRuntime.storeAt, AiRuntime.setModel, StoreArgs.entry] using
        storedBias_inRange a.bias
    · simpa [AiRuntime.storeAt, AiRuntime.setModel, hj] using h j
  · rw [hstep]
    exact h

lemma bounded_init (models : Fin 8 → AiModelInfo) : (aiRuntimeInit models).Bounded :=
  fun _ => show InRange 0 from ⟨by decide, by decide⟩

/-! ### Steps -/

namespace AiTrainStats

variable (g : AiTrainStats)

/-- Where some steps move the bias: every other step goes back. -/
def moved (k : Nat) : Int32 :=
  if k % 2 = 0 then g.currentBias
  else if g.totalSteps.toNat % 2 = 0 then g.currentBias - g.stride.toInt32
  else g.currentBias + g.stride.toInt32

/-- How far the bias is from that of the checkpoint: not at all, or by one step, which the next one
takes back. -/
def Near : Prop :=
  let d := g.currentBias.toInt - g.checkpointBias.toInt
  d = 0 ∨ (g.totalSteps.toNat % 2 = 0 ∧ d = g.stride.toNat) ∨
    (g.totalSteps.toNat % 2 = 1 ∧ d = -g.stride.toNat)

/-- Parameters with which training can be started. -/
def Parameters (learningRatePpm maxDrift : UInt32) : Prop :=
  (1 ≤ learningRatePpm.toNat ∧ learningRatePpm.toNat ≤ 10000) ∧
    100 ≤ maxDrift.toNat ∧ maxDrift.toNat ≤ 100000

variable {g}

lemma stride_bounds (h : Parameters g.learningRatePpm g.maxDrift) :
    1 ≤ g.stride.toNat ∧ g.stride.toNat ≤ 100 := by
  have hdiv : (g.learningRatePpm / 100).toNat = g.learningRatePpm.toNat / 100 := rfl
  obtain ⟨⟨hlo, hhi⟩, -⟩ := h
  simp only [stride]
  split_ifs with hzero
  · exact ⟨by decide, by decide⟩
  · have hne : (g.learningRatePpm / 100).toNat ≠ 0 :=
      fun h => hzero (UInt32.toNat_inj.1 h)
    omega

lemma direction_iff (total : UInt32) (i : Nat) :
    (total + UInt32.ofNat i) &&& 1 ≠ 0 ↔ (total.toNat + i) % 2 = 1 := by
  rw [ne_eq, ← UInt32.toNat_inj, UInt32.toNat_and, UInt32.toNat_add]
  change ¬ ((total.toNat + i % 2 ^ 32) % 2 ^ 32 &&& 1) = 0 ↔ _
  rw [Nat.and_one_is_mod]
  omega

lemma toInt_stride (h : Parameters g.learningRatePpm g.maxDrift) :
    g.stride.toInt32.toInt = g.stride.toNat := by
  have hbounds := stride_bounds h
  exact toInt_toInt32 (by omega)

section

variable (hp : Parameters g.learningRatePpm g.maxDrift) (hckpt : InRange g.checkpointBias)
include hp hckpt

lemma moved_near (hnear : g.Near) (k : Nat) :
    (g.moved k).toInt - g.checkpointBias.toInt ≤ g.stride.toNat ∧
      -(g.stride.toNat : Int) ≤ (g.moved k).toInt - g.checkpointBias.toInt := by
  have hstride := toInt_stride hp
  have hbounds := stride_bounds hp
  obtain ⟨hlo, hhi⟩ := hckpt
  unfold moved
  unfold Near at hnear
  split_ifs with hk hT
  · omega
  · rw [toInt_sub_of_bounds (by omega) (by omega)]
    omega
  · rw [toInt_add_of_bounds (by omega) (by omega)]
    omega

omit hp hckpt in
lemma absI32_le {v : Int32} {n : Nat} (hn : n ≤ 100000) (hhi : v.toInt ≤ n)
    (hlo : -(n : Int) ≤ v.toInt) : (absI32 v).toInt ≤ n := by
  unfold absI32
  split_ifs
  · rw [toInt_neg_of_bounds (by omega) (by omega)]
    omega
  · exact hhi

lemma moveBias_moved (hnear : g.Near) (k : Nat) : moveBias { g with currentBias := g.moved k } k =
      .ok { g with currentBias := g.moved (k + 1) } := by
  have htarget : g.moved k + g.stride.toInt32 *
      (if (g.totalSteps + UInt32.ofNat k) &&& 1 ≠ 0 then 1 else -1) = g.moved (k + 1) := by
    simp only [direction_iff, moved]
    rcases Nat.mod_two_eq_zero_or_one k with hk | hk <;>
      rcases Nat.mod_two_eq_zero_or_one g.totalSteps.toNat with hT | hT <;>
      simp only [Nat.add_mod, hk, hT, Nat.reduceMod, Nat.reduceAdd, if_true, if_false,
        Nat.one_ne_zero, Nat.zero_ne_one] <;>
      grind
  have hquiet : ¬ g.maxDrift.toInt32 < absI32 (g.moved (k + 1) - g.checkpointBias) := by
    obtain ⟨hle, hge⟩ := moved_near hp hckpt hnear (k + 1)
    have hbounds := stride_bounds hp
    have hdiff : (g.moved (k + 1) - g.checkpointBias).toInt =
        (g.moved (k + 1)).toInt - g.checkpointBias.toInt :=
      toInt_sub_of_bounds (by omega) (by omega)
    have habs := absI32_le (n := g.stride.toNat) (by omega) (hdiff.trans_le hle) (hdiff ▸ hge)
    rw [lt_iff_toInt, toInt_toInt32 (by have := hp.2; omega)]
    have hdrift := hp.2
    omega
  simp only [moveBias, stride] at htarget ⊢
  rw [htarget, if_neg hquiet]

lemma foldlM_moveBias (hnear : g.Near) (k : Nat) :
    (List.range k).foldlM moveBias g = .ok { g with currentBias := g.moved k } := by
  induction k with
  | zero => rfl
  | succ k ih =>
    rw [List.range_succ, List.foldlM_append, ih]
    exact (bind_pure _).trans (moveBias_moved hp hckpt hnear k)

end

end AiTrainStats

/-! ### What is kept -/

structure AiTrainCheckpoint.Written (f : AiTrainCheckpoint) : Prop where
  magic : f.magic = aiTrainCkptMagic
  version : f.version = 1
  bias : f.currentBias = f.checkpointBias
  inRange : InRange f.currentBias
  parameters : AiTrainStats.Parameters f.learningRatePpm f.maxDrift
  name : f.modelName.chars ≠ []

namespace AiTrainer

/-- A model is being trained, and its bias is that of the trainer. -/
structure Training (s : AiTrainer) : Prop where
  name : s.train.modelName.chars ≠ []
  parameters : AiTrainStats.Parameters s.train.learningRatePpm s.train.maxDrift
  checkpoint : InRange s.train.checkpointBias
  inRange : InRange s.train.currentBias
  near : s.train.Near
  bias : aiRuntimeGetModelBias s.runtime s.train.modelName.chars = some s.train.currentBias

structure Sound (s : AiTrainer) : Prop where
  bounded : s.runtime.Bounded
  file : ∀ f ∈ s.file, f.Written
  training : s.train.active = true → s.Training
  idle : s.train.active = false → s.train.currentBias = s.train.checkpointBias

variable {s : AiTrainer}

/-- What setting the bias of the trained model does. -/
structure BiasSet (s s' : AiTrainer) : Prop where
  train : s'.train = s.train
  file : s'.file = s.file
  bounded : s'.runtime.Bounded
  bias : aiRuntimeGetModelBias s'.runtime s'.train.modelName.chars =
    some (clampedBias s'.train.currentBias)

lemma setBias_spec (hbounded : s.runtime.Bounded)
    (h : (aiRuntimeGetModelBias s.runtime s.train.modelName.chars).isSome) :
    s.setBias.2 = true ∧ BiasSet s s.setBias.1 := by
  obtain ⟨hset, hget⟩ := getModelBias_setModelBias h s.train.currentBias
  exact ⟨hset, rfl, rfl, hbounded.setModelBias _ _, hget⟩

lemma BiasSet.training {s' : AiTrainer} (h : BiasSet s s') (hname : s.train.modelName.chars ≠ [])
    (hp : AiTrainStats.Parameters s.train.learningRatePpm s.train.maxDrift)
    (hckpt : InRange s.train.checkpointBias) (hrange : InRange s.train.currentBias)
    (hnear : s.train.Near) : s'.Training := by
  obtain ⟨htrain, -, -, hbias⟩ := h
  rw [htrain, clampedBias_eq_iff.2 hrange] at hbias
  rw [← htrain] at hname hp hckpt hrange hnear hbias
  exact ⟨hname, hp, hckpt, hrange, hnear, hbias⟩

lemma aiTrainLoadCheckpoint_cases (hfile : ∀ f ∈ s.file, f.Written) {name : CString} {b : Int32}
    (hname : name ≠ []) (hb : aiRuntimeGetModelBias s.runtime name = some b) :
    (∃ f ∈ s.file, f.modelName.chars = name ∧
      s.aiTrainLoadCheckpoint name = (s.restore f).setBias) ∨
    ((∀ f ∈ s.file, f.modelName.chars ≠ name) ∧ ∃ c, (c = s.train.currentBias ∨ c = b) ∧
      s.aiTrainLoadCheckpoint name = ({ s with train.currentBias := c }, false)) := by
  rcases Option.eq_none_or_eq_some s.file with hf | ⟨f, hf⟩
  · have hload : s.aiTrainLoadCheckpoint name = (s, false) := by
      simp only [aiTrainLoadCheckpoint, hf]
    refine Or.inr ⟨fun f hmem => ?_, s.train.currentBias, Or.inl rfl, hload⟩
    rw [hf] at hmem
    cases hmem
  · have hwritten := hfile f hf
    have hmagic : ¬ (f.magic ≠ aiTrainCkptMagic ∨ f.version ≠ 1) :=
      not_or.2 ⟨not_not.2 hwritten.magic, not_not.2 hwritten.version⟩
    have hload : s.aiTrainLoadCheckpoint name =
        loadMatching { s with train.currentBias := b } name f := by
      simp only [aiTrainLoadCheckpoint, hf, if_neg hmagic, if_neg hname, hb]
    by_cases hmatch : f.modelName.chars = name
    · refine Or.inl ⟨f, hf, hmatch, ?_⟩
      rw [hload, loadMatching, if_neg fun h => h.2 hmatch.symm]
      rfl
    · refine Or.inr ⟨fun f' hmem => ?_, b, Or.inr rfl, ?_⟩
      · obtain rfl := Option.some.inj (hf.symm.trans hmem)
        exact hmatch
      · rw [hload, loadMatching, if_pos ⟨hname, fun h => hmatch h.symm⟩]

lemma restore_training (hbounded : s.runtime.Bounded) {f : AiTrainCheckpoint} (hf : f.Written)
    (h : (aiRuntimeGetModelBias s.runtime f.modelName.chars).isSome) :
    (s.restore f).setBias.2 = true ∧ (s.restore f).setBias.1.Training ∧
      BiasSet (s.restore f) (s.restore f).setBias.1 := by
  obtain ⟨hset, hspec⟩ := setBias_spec (s := s.restore f) hbounded h
  have hckpt : InRange f.checkpointBias := hf.bias ▸ hf.inRange
  have hnear : (s.restore f).train.Near := by
    refine Or.inl ?_
    change f.currentBias.toInt - f.checkpointBias.toInt = 0
    rw [hf.bias]
    exact Int.sub_self _
  exact ⟨hset, hspec.training hf.name hf.parameters hckpt hf.inRange hnear, hspec⟩

end AiTrainer

/-! ### The calls -/

variable {s : AiTrainer} {op : TrainOp}

/-- Training starts with the parameters it is given, the bias of the model is that of the trainer
after each call that returns 1, and it does not drift too far from that of the checkpoint. -/
structure TrainingAgrees (s : AiTrainer) (op : TrainOp) : Prop where
  parameters : ∀ modelName learningRatePpm maxDrift,
    op = .start modelName learningRatePpm maxDrift → (trainStep s op).2 = true →
      (trainStep s op).1.train.learningRatePpm = learningRatePpm ∧
        (trainStep s op).1.train.maxDrift = maxDrift
  bias : (trainStep s op).2 = true →
    aiRuntimeGetModelBias (trainStep s op).1.runtime (trainStep s op).1.train.modelName.chars =
      some (trainStep s op).1.train.currentBias
  drift : ((trainStep s op).1.train.currentBias.toInt -
    (trainStep s op).1.train.checkpointBias.toInt).natAbs ≤ (trainStep s op).1.train.maxDrift.toNat

/-- Training is not started where a checkpoint of the same model has other parameters, and steps do
not move the bias out of the range of a model. -/
def TrainingDue (s : AiTrainer) : TrainOp → Prop
  | .start modelName learningRatePpm maxDrift =>
    modelName ≠ [] → AiTrainStats.Parameters learningRatePpm maxDrift →
      (aiRuntimeGetModelBias s.runtime modelName).isSome →
      ∀ f ∈ s.file, f.modelName.chars = modelName →
        f.learningRatePpm = learningRatePpm ∧ f.maxDrift = maxDrift
  | .step steps => s.train.active = true → s.train.paused = false →
    InRange (s.train.moved (effectiveSteps steps).toNat)
  | _ => True

lemma AiTrainer.Training.drift (h : s.Training) :
    (s.train.currentBias.toInt - s.train.checkpointBias.toInt).natAbs ≤ s.train.maxDrift.toNat := by
  have hbounds := AiTrainStats.stride_bounds h.parameters
  have hdrift := h.parameters.2
  have hnear := h.near
  unfold AiTrainStats.Near at hnear
  omega

lemma AiTrainer.Sound.drift (h : s.Sound) :
    (s.train.currentBias.toInt - s.train.checkpointBias.toInt).natAbs ≤ s.train.maxDrift.toNat := by
  cases hactive : s.train.active with
  | true => exact (h.training hactive).drift
  | false =>
    rw [h.idle hactive]
    omega

lemma agrees_of_false (h : s.Sound) (hstep : trainStep s op = (s, false)) :
    (trainStep s op).1.Sound ∧ TrainingAgrees s op := by
  rw [hstep]
  refine ⟨h, fun n l d _ htrue => ?_, fun htrue => ?_, ?_⟩
  · rw [hstep] at htrue
    cases htrue
  · rw [hstep] at htrue
    cases htrue
  · rw [hstep]
    exact h.drift

lemma agrees_of_training {s' : AiTrainer} {r : Bool} (hstep : trainStep s op = (s', r))
    (h : s'.Training) (hactive : s'.train.active = true) (hbounded : s'.runtime.Bounded)
    (hfile : ∀ f ∈ s'.file, f.Written) (hstart : ∀ n l d, op = .start n l d →
      s'.train.learningRatePpm = l ∧ s'.train.maxDrift = d) :
    (trainStep s op).1.Sound ∧ TrainingAgrees s op := by
  rw [hstep]
  refine ⟨⟨hbounded, hfile, fun _ => h, fun hidle => ?_⟩, fun n l d hop _ => ?_, fun _ => ?_, ?_⟩
  · rw [hactive] at hidle
    cases hidle
  · rw [hstep]
    exact hstart n l d hop
  · rw [hstep]
    exact h.bias
  · rw [hstep]
    exact h.drift

lemma start_cases (s : AiTrainer) (n : CString) (l d : UInt32) :
    trainStep s (.start n l d) = (s, false) ∨
    (n ≠ [] ∧ AiTrainStats.Parameters l d ∧ ∃ b, aiRuntimeGetModelBias s.runtime n = some b ∧
      trainStep s (.start n l d) = (((s.begin n l d b).aiTrainLoadCheckpoint n).1, true)) := by
  simp only [trainStep, AiTrainer.aiTrainStart]
  split_ifs with hname hrate hdrift
  · exact Or.inl rfl
  · exact Or.inl rfl
  · exact Or.inl rfl
  · cases hbias : aiRuntimeGetModelBias s.runtime n with
    | none => exact Or.inl rfl
    | some b =>
      simp only [← UInt32.toNat_inj, UInt32.lt_iff_toNat_lt, UInt32.reduceToNat] at hrate hdrift
      refine Or.inr ⟨hname, ⟨?_, ?_⟩, b, rfl, rfl⟩
      · omega
      · omega

lemma begin_training (hbounded : s.runtime.Bounded) {n : CString} {l d : UInt32} {b : Int32}
    (hname : n ≠ []) (hp : AiTrainStats.Parameters l d)
    (hb : aiRuntimeGetModelBias s.runtime n = some b) : (s.begin n l d b).Training := by
  obtain ⟨i, hi, -⟩ := Option.map_eq_some_iff.1 hb
  have hstored : (s.runtime.models i).name.chars = n :=
    (@Keyed.of_find _ _ _ _ AiModelInfo.active (fun m => m.name.chars) _ _ _ hi).2
  have hcopy : (ModelName.copy n).chars = n :=
    ModelName.copy_chars (hstored ▸ (s.runtime.models i).name.terminated)
      (AiRuntime.length_of_find hi)
  have hrange := inRange_of_getModelBias hbounded hb
  refine ⟨?_, hp, hrange, hrange, Or.inl (Int.sub_self _), ?_⟩
  · change (ModelName.copy n).chars ≠ []
    rw [hcopy]
    exact hname
  · change aiRuntimeGetModelBias s.runtime (ModelName.copy n).chars = some b
    rw [hcopy]
    exact hb

lemma start_sound (h : s.Sound) {n : CString} {l d : UInt32} (hdue : TrainingDue s (.start n l d)) :
    (trainStep s (.start n l d)).1.Sound ∧ TrainingAgrees s (.start n l d) := by
  rcases start_cases s n l d with hfalse | ⟨hname, hp, b, hb, hstep⟩
  · exact agrees_of_false h hfalse
  · have hbegin := begin_training h.bounded hname hp hb
    have hsome : (aiRuntimeGetModelBias s.runtime n).isSome := by
      rw [hb]
      rfl
    rcases AiTrainer.aiTrainLoadCheckpoint_cases (s := s.begin n l d b) h.file hname hb with
      ⟨f, hf, hmatch, hload⟩ | ⟨-, c, hc, hload⟩
    · obtain ⟨-, htraining, hset⟩ := AiTrainer.restore_training (s := s.begin n l d b) h.bounded
        (h.file f hf) (hmatch ▸ hsome)
      obtain ⟨hl, hd⟩ := hdue hname hp hsome f hf hmatch
      rw [hload] at hstep
      refine agrees_of_training hstep htraining ?_ hset.bounded ?_ ?_
      · rfl
      · exact h.file
      · rintro _ _ _ ⟨⟩
        exact ⟨hl, hd⟩
    · have hcb : c = b := hc.elim id id
      subst hcb
      rw [hload] at hstep
      refine agrees_of_training hstep hbegin rfl h.bounded h.file ?_
      rintro _ _ _ ⟨⟩
      exact ⟨rfl, rfl⟩

lemma near_moved {g : AiTrainStats} (hp : AiTrainStats.Parameters g.learningRatePpm g.maxDrift)
    (hckpt : InRange g.checkpointBias) (hnear : g.Near) (steps : UInt32) :
    ({ g with
      currentBias := g.moved steps.toNat
      totalSteps := g.totalSteps + steps } : AiTrainStats).Near := by
  have hstride := AiTrainStats.toInt_stride hp
  have hbounds := AiTrainStats.stride_bounds hp
  have hparity : (g.totalSteps + steps).toNat % 2 =
      (g.totalSteps.toNat + steps.toNat) % 2 := by
    rw [UInt32.toNat_add]
    omega
  obtain ⟨hlo, hhi⟩ := hckpt
  unfold AiTrainStats.Near at hnear
  have hmoved : (g.moved steps.toNat).toInt =
      if steps.toNat % 2 = 0 then g.currentBias.toInt
      else if g.totalSteps.toNat % 2 = 0 then g.currentBias.toInt - g.stride.toNat
      else g.currentBias.toInt + g.stride.toNat := by
    unfold AiTrainStats.moved
    split_ifs with hk hT
    · rfl
    · rw [toInt_sub_of_bounds (by omega) (by omega), hstride]
    · rw [toInt_add_of_bounds (by omega) (by omega), hstride]
  change (g.moved steps.toNat).toInt - g.checkpointBias.toInt = 0 ∨
    ((g.totalSteps + steps).toNat % 2 = 0 ∧
      (g.moved steps.toNat).toInt - g.checkpointBias.toInt = g.stride.toNat) ∨
    ((g.totalSteps + steps).toNat % 2 = 1 ∧
      (g.moved steps.toNat).toInt - g.checkpointBias.toInt = -g.stride.toNat)
  rw [hparity, hmoved]
  split_ifs <;> omega

/-- The state before the bias of the model is set to where the steps lead. -/
def AiTrainer.afterSteps (s : AiTrainer) (steps : UInt32) : AiTrainer :=
  { s with
    train.currentBias := s.train.moved steps.toNat
    train.totalSteps := s.train.totalSteps + steps }

lemma step_of_training (ht : s.Training) (hactive : s.train.active = true)
    (hpaused : s.train.paused = false) (steps : UInt32) : trainStep s (.step steps) =
      ((s.afterSteps (effectiveSteps steps)).setBias.1, true) := by
  have hgo : ¬ (¬ s.train.active = true ∨ s.train.paused = true ∨
      s.train.modelName.chars = []) := by
    rintro (hidle | hstop | hname)
    · exact hidle hactive
    · exact absurd hstop (by rw [hpaused]; exact Bool.false_ne_true)
    · exact ht.name hname
  have hloop := AiTrainStats.foldlM_moveBias ht.parameters ht.checkpoint ht.near
    (effectiveSteps steps).toNat
  simp only [trainStep, AiTrainer.aiTrainStep, if_neg hgo, hloop]
  rfl

lemma step_sound (h : s.Sound) {steps : UInt32} (hdue : TrainingDue s (.step steps)) :
    (trainStep s (.step steps)).1.Sound ∧ TrainingAgrees s (.step steps) := by
  by_cases hgo : s.train.active = true ∧ s.train.paused = false
  case neg =>
    refine agrees_of_false h (if_pos ?_)
    rw [not_and_or, Bool.not_eq_false] at hgo
    exact hgo.imp_right Or.inl
  case pos =>
    obtain ⟨hactive, hpaused⟩ := hgo
    have htraining := h.training hactive
    have hrange := hdue hactive hpaused
    have hstep := step_of_training htraining hactive hpaused steps
    obtain ⟨-, hset⟩ := AiTrainer.setBias_spec (s := s.afterSteps (effectiveSteps steps)) h.bounded
      (Option.isSome_iff_exists.2 ⟨_, htraining.bias⟩)
    have hgoes := hset.training htraining.name htraining.parameters htraining.checkpoint hrange
      (near_moved htraining.parameters htraining.checkpoint htraining.near _)
    refine agrees_of_training hstep hgoes ?_ hset.bounded ?_
      fun n l d hop => TrainOp.noConfusion hop
    · exact hactive
    · exact h.file

lemma pause_sound (h : s.Sound) : (trainStep s .pause).1.Sound ∧ TrainingAgrees s .pause := by
  by_cases hactive : s.train.active = true
  · have ht := h.training hactive
    exact agrees_of_training (if_neg (not_not.2 hactive))
      ⟨ht.name, ht.parameters, ht.checkpoint, ht.inRange, ht.near, ht.bias⟩ hactive h.bounded h.file
      fun n l d hop => TrainOp.noConfusion hop
  · exact agrees_of_false h (if_pos hactive)

lemma resume_sound (h : s.Sound) : (trainStep s .resume).1.Sound ∧ TrainingAgrees s .resume := by
  by_cases hactive : s.train.active = true
  · have ht := h.training hactive
    exact agrees_of_training (if_neg (not_not.2 hactive))
      ⟨ht.name, ht.parameters, ht.checkpoint, ht.inRange, ht.near, ht.bias⟩ hactive h.bounded h.file
      fun n l d hop => TrainOp.noConfusion hop
  · exact agrees_of_false h (if_pos hactive)

lemma checkpoint_sound (h : s.Sound) (writes : Bool) :
    (trainStep s (.checkpoint writes)).1.Sound ∧ TrainingAgrees s (.checkpoint writes) := by
  by_cases hactive : s.train.active = true
  · have ht := h.training hactive
    have hsaved := (if_neg (not_not.2 hactive) : trainStep s (.checkpoint writes) = _)
    have htraining : AiTrainer.Training
        { s with
          train.checkpointBias := s.train.currentBias
          train.checkpoints := s.train.checkpoints + 1 } :=
      ⟨ht.name, ht.parameters, ht.inRange, ht.inRange, Or.inl (Int.sub_self _), ht.bias⟩
    cases writes with
    | false =>
      exact agrees_of_training hsaved htraining hactive h.bounded h.file
        fun n l d hop => TrainOp.noConfusion hop
    | true =>
      refine agrees_of_training hsaved ⟨htraining.name, htraining.parameters, htraining.checkpoint,
        htraining.inRange, htraining.near, htraining.bias⟩ hactive h.bounded ?_
        fun n l d hop => TrainOp.noConfusion hop
      rintro f hf
      obtain rfl := Option.some.inj hf
      exact ⟨rfl, rfl, rfl, ht.inRange, ht.parameters, ht.name⟩
  · exact agrees_of_false h (if_pos hactive)

lemma rollback_of_active (hactive : s.train.active = true) : trainStep s .rollback =
    if (s.aiTrainLoadCheckpoint s.train.modelName.chars).2 then
      ((s.aiTrainLoadCheckpoint s.train.modelName.chars).1.countRollback, true)
    else (s.aiTrainLoadCheckpoint s.train.modelName.chars).1.goBack.countRollback.setBias :=
  if_neg (not_not.2 hactive)

lemma rollback_sound (h : s.Sound) :
    (trainStep s .rollback).1.Sound ∧ TrainingAgrees s .rollback := by
  by_cases hactive : s.train.active = true
  · have ht := h.training hactive
    have hsome : (aiRuntimeGetModelBias s.runtime s.train.modelName.chars).isSome :=
      Option.isSome_iff_exists.2 ⟨_, ht.bias⟩
    have hstep := rollback_of_active hactive
    rcases AiTrainer.aiTrainLoadCheckpoint_cases h.file ht.name ht.bias with
      ⟨f, hf, hmatch, hload⟩ | ⟨-, c, -, hload⟩
    · obtain ⟨htrue, htraining, hset⟩ := AiTrainer.restore_training (s := s) h.bounded (h.file f hf)
        (hmatch ▸ hsome)
      rw [hload, if_pos htrue] at hstep
      refine agrees_of_training hstep ⟨htraining.name, htraining.parameters, htraining.checkpoint,
        htraining.inRange, htraining.near, htraining.bias⟩ ?_ hset.bounded ?_
        fun n l d hop => TrainOp.noConfusion hop
      · exact hactive
      · exact h.file
    · rw [hload, if_neg Bool.false_ne_true] at hstep
      obtain ⟨-, hset⟩ := AiTrainer.setBias_spec (s := s.goBack.countRollback) h.bounded hsome
      have hgoes := hset.training ht.name ht.parameters ht.checkpoint ht.checkpoint
        (Or.inl (Int.sub_self _))
      refine agrees_of_training hstep hgoes ?_ hset.bounded ?_
        fun n l d hop => TrainOp.noConfusion hop
      · exact hactive
      · exact h.file
  · exact agrees_of_false h (if_pos hactive)

/-! ### Runs -/

lemma sound_step (h : s.Sound) (hdue : TrainingDue s op) :
    (trainStep s op).1.Sound ∧ TrainingAgrees s op := by
  cases op with
  | start n l d => exact start_sound h hdue
  | step steps => exact step_sound h hdue
  | checkpoint writes => exact checkpoint_sound h writes
  | rollback => exact rollback_sound h
  | pause => exact pause_sound h
  | resume => exact resume_sound h

/-- Calls that are not due show it. -/
lemma due_of_agrees (h : s.Sound) (hagrees : TrainingAgrees s op) : TrainingDue s op := by
  cases op with
  | start n l d =>
    intro hname hp hsome f hf hmatch
    obtain ⟨b, hb⟩ := Option.isSome_iff_exists.1 hsome
    have hstep : trainStep s (.start n l d) =
        (((s.begin n l d b).aiTrainLoadCheckpoint n).1, true) := by
      obtain ⟨⟨hl, hl'⟩, hd, hd'⟩ := hp
      have hrate : ¬ (l = 0 ∨ 10000 < l) := by
        simp only [← UInt32.toNat_inj, UInt32.lt_iff_toNat_lt, UInt32.reduceToNat]
        omega
      have hdrift : ¬ (d < 100 ∨ 100000 < d) := by
        simp only [UInt32.lt_iff_toNat_lt, UInt32.reduceToNat]
        omega
      simp only [trainStep, AiTrainer.aiTrainStart, if_neg hname, if_neg hrate, if_neg hdrift, hb]
    rcases AiTrainer.aiTrainLoadCheckpoint_cases (s := s.begin n l d b) h.file hname hb with
      ⟨f', hf', -, hload⟩ | ⟨hnone, -⟩
    · obtain rfl := Option.some.inj (hf'.symm.trans hf)
      have hparameters := hagrees.parameters n l d rfl (by rw [hstep])
      rw [hstep, hload] at hparameters
      exact hparameters
    · exact absurd hmatch (hnone f hf)
  | step steps =>
    intro hactive hpaused
    have htraining := h.training hactive
    have hstep := step_of_training htraining hactive hpaused steps
    obtain ⟨-, hset⟩ := AiTrainer.setBias_spec (s := s.afterSteps (effectiveSteps steps)) h.bounded
      (Option.isSome_iff_exists.2 ⟨_, htraining.bias⟩)
    have hbias := hagrees.bias (by rw [hstep])
    rw [hstep] at hbias
    exact clampedBias_eq_iff.1 (Option.some.inj (hset.bias.symm.trans hbias))
  | checkpoint | rollback | pause | resume => trivial

/-- The trainer at the start, when some models have been loaded and there is no checkpoint. -/
def newTrainer (models : Fin 8 → AiModelInfo) (loads : List ModelOp) : AiTrainer where
  train := aiTrainInit
  runtime := Machine.run modelStep (aiRuntimeInit models) loads
  file := none

lemma sound_newTrainer (models : Fin 8 → AiModelInfo) (loads : List ModelOp) :
    (newTrainer models loads).Sound where
  bounded := Machine.run_invariant' (I := AiRuntime.Bounded)
    (fun _ op h => bounded_modelStep h op) (bounded_init models) loads
  file f hf := by cases hf
  training hactive := by cases hactive
  idle _ := rfl

/-- The trainer agrees with the model in all calls of a run exactly when in all of them training is
started with the parameters of a checkpoint, if there is one of the model, and steps do not move the
bias out of range. -/
theorem runs_trainingAgrees_iff (models : Fin 8 → AiModelInfo) (loads : List ModelOp)
    (ops : List TrainOp) :
    Machine.Runs TrainingAgrees trainStep (newTrainer models loads) ops ↔
      Machine.Runs TrainingDue trainStep (newTrainer models loads) ops :=
  Machine.runs_congr (I := AiTrainer.Sound) (fun _ _ h hdue => (sound_step h hdue).1)
    (fun _ _ h => ⟨due_of_agrees h, fun hdue => (sound_step h hdue).2⟩)
    (sound_newTrainer models loads) ops

/-- A trainer with one model `m`. -/
def trainerOfM : AiTrainer :=
  newTrainer (fun _ => (memoryArgs [] 0 0 0 0 0).entry)
    [.load (asciiText "m") aiModelKindAnn 1 aiBackendCpu 0 0]

/-- Training is started, leaves a checkpoint, and is started again with other parameters. -/
def startedAgain : List TrainOp :=
  [.start (asciiText "m") 100 5000, .checkpoint true, .start (asciiText "m") 200 600]

/-- The old ones are active. -/
theorem startedAgain_stale : ¬ ∀ (models : Fin 8 → AiModelInfo) (loads : List ModelOp)
    (ops : List TrainOp),
    Machine.Runs TrainingAgrees trainStep (newTrainer models loads) ops := by
  intro h
  have hruns : Machine.Runs TrainingAgrees trainStep trainerOfM startedAgain := h _ _ _
  have hlast := hruns.2.2.1.parameters (asciiText "m") 200 600 rfl (by decide +kernel)
  exact absurd hlast.1 (by decide +kernel)

end NeuroSpark.Ai
