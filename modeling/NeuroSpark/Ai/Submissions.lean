import NeuroSpark.Ai.Scheduler

/-!
# Submissions of jobs

Between calls both queues are empty, and a submission processes its own job and no other. It returns
1 whether or not the model could be run, since the flag is set in both cases.
-/

namespace NeuroSpark.Ai

variable {s : AiScheduler} {r : Submission} {q : JobQueue}

lemma JobQueue.pop_of_empty (h : q.head = q.tail) : q.pop = none := if_pos h

lemma succ_ne (i : Fin 64) : i + 1 ≠ i := by
  revert i
  decide

lemma JobQueue.push_of_empty (h : q.head = q.tail) (job : AiQueuedJob) :
    ∃ q', q.push job = some q' ∧
      ∃ q'', q'.pop = some ({ job with inUse := true }, q'') ∧ q''.head = q''.tail := by
  have hroom : q.tail + 1 ≠ q.head := h ▸ succ_ne q.tail
  have hself : Function.update q.slots q.tail { job with inUse := true } q.head =
      { job with inUse := true } := by
    rw [h]
    exact Function.update_self ..
  refine ⟨_, if_neg hroom, _, (if_neg hroom.symm).trans (congrArg (fun j => some (j, _)) hself), ?_⟩
  exact congrArg (· + 1) h

lemma JobQueue.depth_of_empty (h : q.head = q.tail) : q.depth = 0 := by
  simp [depth, h]

namespace AiScheduler

/-- Both queues are empty. -/
def Drained (s : AiScheduler) : Prop :=
  s.stream.head = s.stream.tail ∧ s.batch.head = s.batch.tail

/-- The jobs that were completed or dropped without being among those that were submitted. -/
def balance (s : AiScheduler) : UInt32 :=
  s.stats.completed + s.stats.dropped - s.stats.submitted

lemma popJob_of_drained (h : s.Drained) : s.popJob = none := by
  simp [popJob, popStream, popBatch, JobQueue.pop_of_empty h.1, JobQueue.pop_of_empty h.2]

lemma drainJobs_of_drained (h : s.Drained) (budget : Nat) : drainJobs budget s = s := by
  cases budget with
  | zero => rfl
  | succ budget => rw [drainJobs, popJob_of_drained h]

lemma enqueue_of_drained (h : s.Drained) (job : AiQueuedJob) : ∃ stream batch,
    s.enqueue job = some { s with stream := stream, batch := batch } ∧
    ∀ t : AiScheduler, t.stream = stream → t.batch = batch → t.stats.qosMode = s.stats.qosMode →
      ∃ stream' batch', t.popJob =
          some ({ job with inUse := true }, { t with stream := stream', batch := batch' }) ∧
        stream'.head = stream'.tail ∧ batch'.head = batch'.tail := by
  by_cases hmode : s.stats.qosMode = aiQosLatency
  · obtain ⟨q, hpush, q', hpop, hempty⟩ := JobQueue.push_of_empty h.1 job
    refine ⟨q, s.batch, ?_, ?_⟩
    · rw [enqueue, if_pos hmode, hpush]
      rfl
    · rintro t rfl hbatch htmode
      refine ⟨q', t.batch, ?_, hempty, hbatch ▸ h.2⟩
      rw [popJob, if_pos (htmode.trans hmode), popStream, hpop]
      rfl
  · obtain ⟨q, hpush, q', hpop, hempty⟩ := JobQueue.push_of_empty h.2 job
    refine ⟨s.stream, q, ?_, ?_⟩
    · rw [enqueue, if_neg hmode, hpush]
      rfl
    · rintro t hstream rfl htmode
      refine ⟨t.stream, q', ?_, hstream ▸ h.1, hempty⟩
      rw [popJob, if_neg (htmode.symm ▸ hmode), popBatch, hpop]
      rfl

/-- What processing a job does. -/
structure Processed (s : AiScheduler) (job : AiQueuedJob) (s' : AiScheduler) : Prop where
  stream : s'.stream = s.stream
  batch : s'.batch = s.batch
  balance : s'.balance = s.balance + 1
  done : ∀ d, job.doneFlag = some d → s'.memory d = 1
  value : ∀ d a out, job.doneFlag = some d → job.outValue = some a → a ≠ d →
    (aiRuntimeInfer s.runtime job.modelName.chars job.inputValue job.seed).2 = some out →
      s'.memory a = out.toUInt32

section

variable (s : AiScheduler)

@[simp] lemma write_stats (p : Option Nat) (w : UInt32) : (s.write p w).stats = s.stats := by
  cases p <;> rfl

@[simp] lemma write_stream (p : Option Nat) (w : UInt32) : (s.write p w).stream = s.stream := by
  cases p <;> rfl

@[simp] lemma write_batch (p : Option Nat) (w : UInt32) : (s.write p w).batch = s.batch := by
  cases p <;> rfl

@[simp] lemma write_runtime (p : Option Nat) (w : UInt32) : (s.write p w).runtime = s.runtime := by
  cases p <;> rfl

lemma write_memory_self (a : Nat) (w : UInt32) :
    (s.write (some a) w).memory a = w := Function.update_self ..

lemma write_memory_of_ne {a d : Nat} (h : a ≠ d) (w : UInt32) :
    (s.write (some d) w).memory a = s.memory a := Function.update_of_ne h ..

lemma processOneJob_spec (job : AiQueuedJob) : Processed s job (s.processOneJob job) := by
  cases hout : (aiRuntimeInfer s.runtime job.modelName.chars job.inputValue job.seed).2 with
  | none =>
    have heq : s.processOneJob job =
        (AiScheduler.write { s with runtime := (aiRuntimeInfer s.runtime job.modelName.chars
          job.inputValue job.seed).1 } job.doneFlag 1).countDropped := by
      simp only [processOneJob, hout]
    rw [heq]
    constructor
    · simp [countDropped]
    · simp [countDropped]
    · simp only [countDropped, balance, write_stats]
      grind
    · rintro d hd
      rw [hd]
      exact write_memory_self ..
    · rintro d a out - - - hsome
      rw [hout] at hsome
      cases hsome
  | some value =>
    simp only [processOneJob, hout]
    constructor
    · simp
    · simp
    · simp only [balance, write_stats]
      grind
    · rintro d hd
      rw [hd]
      exact write_memory_self ..
    · rintro d a out hd ha hne hsome
      obtain rfl := Option.some.inj (hout.symm.trans hsome)
      rw [hd, ha]
      exact (write_memory_of_ne _ hne _).trans (write_memory_self ..)

/-! ### One submission -/

lemma schedulerBudgetJobs_pos : 0 < s.schedulerBudgetJobs := by
  unfold schedulerBudgetJobs
  split_ifs <;> decide

end

lemma drainJobs_of_popJob {job : AiQueuedJob} {t : AiScheduler} (hpop : s.popJob = some (job, t))
    (hdrained : t.Drained) {budget : Nat} (hbudget : 0 < budget) :
    drainJobs budget s = t.processOneJob job := by
  obtain ⟨k, rfl⟩ := Nat.exists_eq_succ_of_ne_zero hbudget.ne'
  have hspec := processOneJob_spec t job
  have hdrained' : (t.processOneJob job).Drained := by
    unfold Drained
    rw [hspec.stream, hspec.batch]
    exact hdrained
  rw [drainJobs, hpop]
  exact drainJobs_of_drained hdrained' k

lemma spin_of_popJob {job : AiQueuedJob} {t : AiScheduler} (hpop : s.popJob = some (job, t))
    (hdrained : t.Drained) (done : Nat) (hdone : job.doneFlag = some done)
    (hzero : s.memory done = 0) :
    spin done 128 s = (t.processOneJob job).refreshQueueDepths := by
  have hone : (t.processOneJob job).memory done = 1 := (processOneJob_spec t job).done done hdone
  have hdrain : s.drainQueues s.schedulerBudgetJobs = (t.processOneJob job).refreshQueueDepths := by
    rw [drainQueues, drainJobs_of_popJob hpop hdrained s.schedulerBudgetJobs_pos]
  rw [spin, if_neg (not_not.2 hzero), hdrain, spin, if_pos]
  change (t.processOneJob job).memory done ≠ 0
  rw [hone]
  decide

lemma submit_of_null (s : AiScheduler) (h : r.modelName = none ∨ r.outValue = none) :
    s.aiSchedulerSubmitInfer r = ((s.write (some r.done) 0).countDropped, false) := by
  unfold aiSchedulerSubmitInfer
  cases hname : r.modelName with
  | none => rfl
  | some modelName =>
    cases hout : r.outValue with
    | none => rfl
    | some a =>
      rw [hname, hout] at h
      rcases h with h | h <;> cases h

/-- What a submission to empty queues does. -/
structure Served (s : AiScheduler) (r : Submission) (modelName : CString) (a : Nat) : Prop where
  result : (s.aiSchedulerSubmitInfer r).2 = true
  drained : (s.aiSchedulerSubmitInfer r).1.Drained
  balance : (s.aiSchedulerSubmitInfer r).1.balance = s.balance
  value : ∀ out, (aiRuntimeInfer s.runtime (ModelName.copy modelName).chars r.inputValue
    (r.seed ^^^ r.now)).2 = some out → (s.aiSchedulerSubmitInfer r).1.memory a = out.toUInt32

lemma submit_of_drained (h : s.Drained) {modelName : CString} {a : Nat}
    (hname : r.modelName = some modelName) (hout : r.outValue = some a) :
    Served s r modelName a := by
  set s₁ := (s.write (some r.done) 0).refreshQueueDepths with hs₁
  have hdepth : s₁.stats.queueDepth = 0 := by
    have hstream := JobQueue.depth_of_empty h.1
    have hbatch := JobQueue.depth_of_empty h.2
    change s.stream.depth + s.batch.depth = 0
    rw [hstream, hbatch]
    rfl
  set s₂ : AiScheduler := { s₁ with stats.submitted := s₁.stats.submitted + 1 } with hs₂
  have hdrained₂ : s₂.Drained := h
  obtain ⟨stream, batch, henqueue, hnext⟩ := enqueue_of_drained hdrained₂ (r.job modelName)
  set s₃ := (AiScheduler.refreshQueueDepths
    { s₂ with stream := stream, batch := batch }).recordLatency with hs₃
  obtain ⟨stream', batch', hpop, hstream', hbatch'⟩ := hnext s₃ rfl rfl rfl
  set t : AiScheduler := { s₃ with stream := stream', batch := batch' } with ht
  have hspin := spin_of_popJob (s := s₃) hpop ⟨hstream', hbatch'⟩ r.done rfl (write_memory_self ..)
  have hspec := processOneJob_spec t { r.job modelName with inUse := true }
  have hdone := hspec.done r.done rfl
  have heq : s.aiSchedulerSubmitInfer r =
      ((t.processOneJob { r.job modelName with inUse := true }).refreshQueueDepths, true) := by
    have hfull : ¬ 63 ≤ s₁.stats.queueDepth := by
      rw [hdepth]
      decide
    have hset : (t.processOneJob { r.job modelName with inUse := true }).memory r.done ≠ 0 := by
      rw [hdone]
      decide
    simp only [aiSchedulerSubmitInfer, hname, hout, ← hs₁, if_neg hfull, ← hs₂, henqueue, ← hs₃,
      hspin]
    exact if_neg hset
  constructor
  · rw [heq]
  · rw [heq]
    refine ⟨?_, ?_⟩
    · change (t.processOneJob _).stream.head = (t.processOneJob _).stream.tail
      rw [hspec.stream]
      exact hstream'
    · change (t.processOneJob _).batch.head = (t.processOneJob _).batch.tail
      rw [hspec.batch]
      exact hbatch'
  · rw [heq]
    change (t.processOneJob _).balance = s.balance
    rw [hspec.balance]
    change s.stats.completed + s.stats.dropped - (s.stats.submitted + 1) + 1 =
      s.stats.completed + s.stats.dropped - s.stats.submitted
    grind
  · intro out hinfer
    rw [heq]
    have hne : a ≠ r.done := fun heq => r.fresh (hout.trans (congrArg some heq))
    exact hspec.value r.done a out rfl hout hne hinfer

end AiScheduler

/-- A submission returns 1 if and only if the model was run for it and the result stored. -/
def Submission.Honest (r : Submission) (s : AiScheduler) : Prop :=
  (s.aiSchedulerSubmitInfer r).2 = true ↔
    ∃ modelName a out, r.modelName = some modelName ∧ r.outValue = some a ∧
      (aiRuntimeInfer s.runtime (ModelName.copy modelName).chars r.inputValue
        (r.seed ^^^ r.now)).2 = some out ∧
      (s.aiSchedulerSubmitInfer r).1.memory a = out.toUInt32

/-- If the submission has a model and a place for the result, there is a model with the first 15
characters of the name, and the backend exists. -/
def Submission.CanRun (r : Submission) (s : AiScheduler) : Prop :=
  r.outValue ≠ none → ∀ modelName ∈ r.modelName,
    (s.runtime.findModelIndex (ModelName.copy modelName).chars).isSome ∧
      (resolveBackend s.runtime.stats.activeBackend).isSome

lemma infer_isSome_iff (s : AiRuntime) (name : CString) (inputValue : Int32) (seed : UInt32) :
    (aiRuntimeInfer s name inputValue seed).2.isSome ↔
      (s.findModelIndex name).isSome ∧ (resolveBackend s.stats.activeBackend).isSome := by
  unfold aiRuntimeInfer
  cases s.findModelIndex name with
  | none => simp
  | some i =>
    cases resolveBackend s.stats.activeBackend with
    | none => simp
    | some infer => simp

lemma honest_iff (h : s.Drained) : r.Honest s ↔ r.CanRun s := by
  unfold Submission.Honest Submission.CanRun
  cases hname : r.modelName with
  | none => simp [AiScheduler.submit_of_null s (Or.inl hname)]
  | some modelName =>
    cases hout : r.outValue with
    | none => simp [AiScheduler.submit_of_null s (Or.inr hout)]
    | some a =>
      have hserved := AiScheduler.submit_of_drained h hname hout
      rw [hserved.result]
      constructor
      · rintro hhonest - name hmem
        obtain ⟨modelName', a', out, hname', -, hinfer, -⟩ := hhonest.1 rfl
        obtain rfl := Option.some.inj hname'
        obtain rfl := Option.some.inj hmem
        exact (infer_isSome_iff ..).1 (Option.isSome_iff_exists.2 ⟨out, hinfer⟩)
      · intro hcan
        have hsome := hcan (Option.some_ne_none a) modelName rfl
        obtain ⟨out, hinfer⟩ := Option.isSome_iff_exists.1 ((infer_isSome_iff ..).2 hsome)
        exact iff_of_true rfl ⟨modelName, a, out, rfl, rfl, hinfer, hserved.value out hinfer⟩

/-! ### Runs -/

inductive SchedulerOp where
  | setQos (mode budgetPct : UInt32)
  | submitInfer (r : Submission)
  | runBench (b : Bench)
  /-- Anything else that changes models and memory. -/
  | other (runtime : AiRuntime) (memory : Nat → UInt32)

/-- The state after a call. -/
def schedulerStep (s : AiScheduler) : SchedulerOp → AiScheduler × Unit
  | .setQos mode budgetPct => ((s.aiSchedulerSetQos mode budgetPct).1, ())
  | .submitInfer r => ((s.aiSchedulerSubmitInfer r).1, ())
  | .runBench b => ((s.aiSchedulerRunBench b).1, ())
  | .other runtime memory => ({ s with runtime := runtime, memory := memory }, ())

/-- The state in which a benchmark makes the submission of a round. -/
def benchState (s : AiScheduler) (b : Bench) (i : Nat) : AiScheduler :=
  ((List.range i).foldl (AiScheduler.benchRound b) (s, ⟨0, 0, 0⟩)).1.write (some b.out) 0

/-- The submissions that a call makes, each with the state in which it is made. -/
def submissions (s : AiScheduler) : SchedulerOp → List (AiScheduler × Submission)
  | .submitInfer r => [(s, r)]
  | .runBench b =>
    if b.modelName = none ∨ b.rounds ≤ 0 ∨ 4096 < b.rounds then []
    else (List.range b.rounds.toNatClampNeg).map fun i => (benchState s b i, b.submission i)
  | _ => []

/-- The submissions that are rejected before they are counted. -/
def rejected (s : AiScheduler) (op : SchedulerOp) : List (AiScheduler × Submission) :=
  (submissions s op).filter fun x => x.1.Rejects x.2

/-- All submissions of a call are answered honestly. -/
def HonestCall (s : AiScheduler) (op : SchedulerOp) : Prop :=
  ∀ x ∈ submissions s op, x.2.Honest x.1

/-- All submissions of a call can be run. -/
def RunnableCall (s : AiScheduler) (op : SchedulerOp) : Prop :=
  ∀ x ∈ submissions s op, x.2.CanRun x.1

lemma not_rejects (h : s.Drained) {modelName : CString} {a : Nat}
    (hname : r.modelName = some modelName) (hout : r.outValue = some a) : ¬ s.Rejects r := by
  rintro (hnone | hnone | hfull)
  · rw [hname] at hnone
    cases hnone
  · rw [hout] at hnone
    cases hnone
  · rw [JobQueue.depth_of_empty h.1, JobQueue.depth_of_empty h.2] at hfull
    revert hfull
    decide

lemma benchRounds_drained (h : s.Drained) {b : Bench} {modelName : CString}
    (hname : b.modelName = some modelName) (k : Nat) :
    ((List.range k).foldl (AiScheduler.benchRound b) (s, ⟨0, 0, 0⟩)).1.Drained ∧
      ((List.range k).foldl (AiScheduler.benchRound b) (s, ⟨0, 0, 0⟩)).1.balance = s.balance := by
  induction k with
  | zero => exact ⟨h, rfl⟩
  | succ k ih =>
    rw [List.range_succ, List.foldl_append]
    generalize (List.range k).foldl (AiScheduler.benchRound b) (s, ⟨0, 0, 0⟩) = x at ih
    have hserved := AiScheduler.submit_of_drained (s := x.1.write (some b.out) 0)
      (r := b.submission k) (a := b.out) ih.1 hname rfl
    have hround : (AiScheduler.benchRound b x k).1 =
        ((x.1.write (some b.out) 0).aiSchedulerSubmitInfer (b.submission k)).1 := by
      simp only [AiScheduler.benchRound, apply_ite Prod.fst, ite_self]
    change (AiScheduler.benchRound b x k).1.Drained ∧
      (AiScheduler.benchRound b x k).1.balance = s.balance
    rw [hround]
    exact ⟨hserved.drained, hserved.balance.trans ih.2⟩

lemma drained_of_mem_submissions (h : s.Drained) {op : SchedulerOp} {x : AiScheduler × Submission}
    (hx : x ∈ submissions s op) : x.1.Drained := by
  cases op with
  | setQos => cases hx
  | submitInfer r =>
    obtain rfl := List.mem_singleton.1 hx
    exact h
  | runBench b =>
    rw [submissions] at hx
    split_ifs at hx with hargs
    · cases hx
    · obtain ⟨i, -, rfl⟩ := List.mem_map.1 hx
      obtain ⟨modelName, hname⟩ := Option.ne_none_iff_exists'.1 fun hnone => hargs (Or.inl hnone)
      exact (benchRounds_drained h hname i).1
  | other => cases hx

lemma drained_step (h : s.Drained) (op : SchedulerOp) :
    (schedulerStep s op).1.Drained ∧
      (schedulerStep s op).1.balance = s.balance + UInt32.ofNat (rejected s op).length := by
  cases op with
  | setQos mode budgetPct =>
    simp only [schedulerStep, AiScheduler.aiSchedulerSetQos]
    split_ifs
    · exact ⟨h, (UInt32.add_zero _).symm⟩
    · exact ⟨h, (UInt32.add_zero _).symm⟩
  | submitInfer r =>
    by_cases hnull : r.modelName = none ∨ r.outValue = none
    · have hrejected : rejected s (.submitInfer r) = [(s, r)] :=
        List.filter_eq_self.2 fun x hx => by
          obtain rfl := List.mem_singleton.1 hx
          exact decide_eq_true (hnull.imp_right Or.inl)
      simp only [schedulerStep, AiScheduler.submit_of_null s hnull, hrejected]
      refine ⟨h, ?_⟩
      change s.stats.completed + (s.stats.dropped + 1) - s.stats.submitted =
        s.stats.completed + s.stats.dropped - s.stats.submitted + 1
      grind
    · obtain ⟨modelName, hname⟩ := Option.ne_none_iff_exists'.1 fun h => hnull (Or.inl h)
      obtain ⟨a, hout⟩ := Option.ne_none_iff_exists'.1 fun h => hnull (Or.inr h)
      have hserved := AiScheduler.submit_of_drained h hname hout
      have hrejected : rejected s (.submitInfer r) = [] :=
        List.filter_eq_nil_iff.2 fun x hx => by
          obtain rfl := List.mem_singleton.1 hx
          simpa using not_rejects h hname hout
      rw [hrejected]
      exact ⟨hserved.drained, hserved.balance.trans (UInt32.add_zero _).symm⟩
  | runBench b =>
    have hrejected : rejected s (.runBench b) = [] := by
      refine List.filter_eq_nil_iff.2 fun x hx => ?_
      have hdrained := drained_of_mem_submissions h hx
      rw [submissions] at hx
      split_ifs at hx with hargs
      · cases hx
      · obtain ⟨i, -, rfl⟩ := List.mem_map.1 hx
        obtain ⟨modelName, hname⟩ := Option.ne_none_iff_exists'.1 fun hnone => hargs (Or.inl hnone)
        simpa using not_rejects (r := b.submission i) hdrained hname rfl
    rw [hrejected, schedulerStep, AiScheduler.aiSchedulerRunBench]
    by_cases hargs : b.modelName = none ∨ b.rounds ≤ 0 ∨ 4096 < b.rounds
    · rw [if_pos hargs]
      exact ⟨h, (UInt32.add_zero _).symm⟩
    · obtain ⟨modelName, hname⟩ := Option.ne_none_iff_exists'.1 fun hnone => hargs (Or.inl hnone)
      obtain ⟨hdrained, hbalance⟩ := benchRounds_drained h hname b.rounds.toNatClampNeg
      rw [if_neg hargs]
      simp only [AiScheduler.drainQueues, AiScheduler.drainJobs_of_drained hdrained]
      exact ⟨hdrained, hbalance.trans (UInt32.add_zero _).symm⟩
  | other runtime memory => exact ⟨h, (UInt32.add_zero _).symm⟩

lemma drained_init (stream batch : Fin 64 → AiQueuedJob) (runtime : AiRuntime)
    (memory : Nat → UInt32) : (aiSchedulerInit stream batch runtime memory).Drained := ⟨rfl, rfl⟩

lemma balance_run (h : s.Drained) (ops : List SchedulerOp) :
    (Machine.run schedulerStep s ops).balance =
      s.balance + UInt32.ofNat (Machine.log rejected schedulerStep s ops).length := by
  induction ops generalizing s with
  | nil => exact (UInt32.add_zero _).symm
  | cons op ops ih =>
    obtain ⟨hdrained, hbalance⟩ := drained_step h op
    rw [Machine.run_cons, ih hdrained, hbalance, Machine.log_cons, List.length_append,
      UInt32.ofNat_add, UInt32.add_assoc]

/-- After a run both queues are empty and the counters agree, and all submissions are answered
honestly exactly when all of them can be run. -/
theorem runs_submissions (stream batch : Fin 64 → AiQueuedJob) (runtime : AiRuntime)
    (memory : Nat → UInt32) (ops : List SchedulerOp) :
    let s₀ := aiSchedulerInit stream batch runtime memory
    let s := Machine.run schedulerStep s₀ ops
    s.Drained ∧
      s.stats.submitted = s.stats.completed + s.stats.dropped -
        UInt32.ofNat (Machine.log rejected schedulerStep s₀ ops).length ∧
      (Machine.Runs HonestCall schedulerStep s₀ ops ↔
        Machine.Runs RunnableCall schedulerStep s₀ ops) := by
  intro s₀ s
  have hinit := drained_init stream batch runtime memory
  have hcall : ∀ s op, AiScheduler.Drained s → (HonestCall s op ↔ RunnableCall s op) := by
    intro s op hs
    exact forall₂_congr fun x hx => honest_iff (drained_of_mem_submissions hs hx)
  have hbalance := balance_run hinit ops
  refine ⟨?_, ?_, ?_⟩
  · exact Machine.run_invariant' (I := AiScheduler.Drained)
      (fun s op hs => (drained_step hs op).1) hinit ops
  · have hzero : s₀.balance = 0 := by simp [s₀, aiSchedulerInit, AiScheduler.balance]
    change s.balance = s₀.balance + _ at hbalance
    rw [hzero, AiScheduler.balance] at hbalance
    grind
  · exact Machine.runs_congr (fun s op hs _ => (drained_step hs op).1)
      (fun s op hs => hcall s op hs) hinit ops

/-- A scheduler over a runtime without models. -/
def newScheduler : AiScheduler :=
  let job : AiQueuedJob := ⟨.copy [], 0, 0, none, none, 0, false⟩
  aiSchedulerInit (fun _ => job) (fun _ => job)
    (aiRuntimeInit fun _ => (memoryArgs [] 0 0 0 0 0).entry) fun _ => 0

/-- A model that does not exist is to be run. -/
def missingModel : Submission where
  modelName := some (asciiText "none")
  inputValue := 5
  seed := 1
  outValue := some 0
  now := 0
  done := 1
  fresh := by decide

/-- The submission returns 1. -/
theorem missingModel_returns : ¬ ∀ (stream batch : Fin 64 → AiQueuedJob) (runtime : AiRuntime)
    (memory : Nat → UInt32) (ops : List SchedulerOp), Machine.Runs HonestCall schedulerStep
      (aiSchedulerInit stream batch runtime memory) ops := by
  intro h
  have hhonest : missingModel.Honest newScheduler :=
    (h _ _ _ _ [.submitInfer missingModel]).1 _ (List.mem_singleton.2 rfl)
  have hreturns : (newScheduler.aiSchedulerSubmitInfer missingModel).2 = true := by decide
  obtain ⟨modelName, a, out, hname, -, hinfer, -⟩ := hhonest.1 hreturns
  obtain rfl := Option.some.inj hname
  have hnone : (aiRuntimeInfer newScheduler.runtime (ModelName.copy (asciiText "none")).chars
      5 (1 ^^^ 0)).2 = none := by decide
  exact Option.some_ne_none _ (hinfer.symm.trans hnone)

end NeuroSpark.Ai
