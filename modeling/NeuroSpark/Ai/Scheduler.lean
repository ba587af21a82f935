import NeuroSpark.Ai.Runtime
import NeuroSpark.Lib.Machine

/-!
# The scheduler of inference jobs

`ai_scheduler.c`: a submission queues a job and drains the queues until the job is done. A job
points to the caller's result and to a flag of the submission; both are addresses in a memory of
words. Counters are 32-bit words.
-/

namespace NeuroSpark.Ai

def aiQosLatency : UInt32 := 0
def aiQosThroughput : UInt32 := 1

structure AiQueuedJob where
  modelName : ModelName
  inputValue : Int32
  seed : UInt32
  outValue : Option Nat
  doneFlag : Option Nat
  latency : UInt32
  inUse : Bool

/-- A ring of 64 jobs, one of which is never used. -/
structure JobQueue where
  slots : Fin 64 → AiQueuedJob
  head : Fin 64
  tail : Fin 64

namespace JobQueue

variable (q : JobQueue)

/-- `queue_push`; `none` when it returns 0. -/
def push (job : AiQueuedJob) : Option JobQueue :=
  if q.tail + 1 = q.head then none
  else
    some { q with
      slots := Function.update q.slots q.tail { job with inUse := true }
      tail := q.tail + 1 }

/-- `queue_pop`; `none` when it returns 0. -/
def pop : Option (AiQueuedJob × JobQueue) :=
  if q.head = q.tail then none
  else
    some (q.slots q.head,
      { q with
        slots := Function.update q.slots q.head { q.slots q.head with inUse := false }
        head := q.head + 1 })

def depth : UInt32 :=
  if q.head ≤ q.tail then UInt32.ofNat (q.tail.val - q.head.val)
  else UInt32.ofNat (64 - q.head.val + q.tail.val)

end JobQueue

/-! ### The scheduler -/

structure AiSchedulerStats where
  qosMode : UInt32
  budgetPct : UInt32
  queueDepth : UInt32
  streamQueueDepth : UInt32
  batchQueueDepth : UInt32
  maxQueueDepth : UInt32
  submitted : UInt32
  completed : UInt32
  processedJobs : UInt32
  dropped : UInt32
  latencyAccum : UInt32
  latencyMax : UInt32
  lastLatency : UInt32

/-- The scheduler with the model runtime and the memory that jobs point to. -/
structure AiScheduler where
  stats : AiSchedulerStats
  stream : JobQueue
  batch : JobQueue
  runtime : AiRuntime
  memory : Nat → UInt32

namespace AiScheduler

variable (s : AiScheduler)

/-- A word is written, unless the pointer is null. -/
def write (p : Option Nat) (w : UInt32) : AiScheduler :=
  match p with
  | none => s
  | some a => { s with memory := Function.update s.memory a w }

def countDropped : AiScheduler := { s with stats.dropped := s.stats.dropped + 1 }

def refreshQueueDepths : AiScheduler :=
  let queueDepth := s.stream.depth + s.batch.depth
  { s with
    stats.streamQueueDepth := s.stream.depth
    stats.batchQueueDepth := s.batch.depth
    stats.queueDepth := queueDepth
    stats.maxQueueDepth :=
      if s.stats.maxQueueDepth < queueDepth then queueDepth else s.stats.maxQueueDepth }

def schedulerBudgetJobs : Nat :=
  let jobs :=
    if 75 ≤ s.stats.budgetPct then 4
    else if 50 ≤ s.stats.budgetPct then 3
    else if 25 ≤ s.stats.budgetPct then 2
    else 1
  if s.stats.qosMode = aiQosThroughput then jobs + 1 else jobs

def processOneJob (job : AiQueuedJob) : AiScheduler :=
  let r := aiRuntimeInfer s.runtime job.modelName.chars job.inputValue job.seed
  let s := { s with runtime := r.1 }
  match r.2 with
  | none => (s.write job.doneFlag 1).countDropped
  | some out =>
    let s := (s.write job.outValue out.toUInt32).write job.doneFlag 1
    { s with
      stats.completed := s.stats.completed + 1
      stats.processedJobs := s.stats.processedJobs + 1 }

/-- The next job of the stream queue. -/
def popStream : Option (AiQueuedJob × AiScheduler) :=
  s.stream.pop.map fun r => (r.1, { s with stream := r.2 })

/-- The next job of the batch queue. -/
def popBatch : Option (AiQueuedJob × AiScheduler) :=
  s.batch.pop.map fun r => (r.1, { s with batch := r.2 })

/-- The next job, from the queue that the mode prefers. -/
def popJob : Option (AiQueuedJob × AiScheduler) :=
  if s.stats.qosMode = aiQosLatency then s.popStream.or s.popBatch
  else s.popBatch.or s.popStream

/-- The loop of `drain_queues`. -/
def drainJobs : Nat → AiScheduler → AiScheduler
  | 0, s => s
  | budget + 1, s =>
    match s.popJob with
    | none => s
    | some (job, s) => drainJobs budget (s.processOneJob job)

def drainQueues (budgetJobs : Nat) : AiScheduler := (drainJobs budgetJobs s).refreshQueueDepths

def estimateLatency (mode budgetPct queueDepth : UInt32) : UInt32 :=
  let base := if mode = aiQosLatency then 2 else 6
  base + (100 - budgetPct) / 10 + queueDepth / 2

/-! ### Calls -/

def aiSchedulerSetQos (mode budgetPct : UInt32) : AiScheduler × Bool :=
  if (mode ≠ aiQosLatency ∧ mode ≠ aiQosThroughput) ∨ budgetPct = 0 ∨ 100 < budgetPct then
    (s, false)
  else ({ s with stats.qosMode := mode, stats.budgetPct := budgetPct }, true)

end AiScheduler

/-- The arguments of a submission, the time at which it is made and the address of its flag. -/
structure Submission where
  modelName : Option CString
  inputValue : Int32
  seed : UInt32
  outValue : Option Nat
  now : UInt32
  done : Nat
  fresh : outValue ≠ some done

def Submission.job (r : Submission) (modelName : CString) : AiQueuedJob where
  modelName := .copy modelName
  inputValue := r.inputValue
  seed := r.seed ^^^ r.now
  outValue := r.outValue
  doneFlag := some r.done
  latency := 0
  inUse := true

namespace AiScheduler

variable (s : AiScheduler)

/-- The job is put into the queue of the mode. -/
def enqueue (job : AiQueuedJob) : Option AiScheduler :=
  if s.stats.qosMode = aiQosLatency then (s.stream.push job).map fun q => { s with stream := q }
  else (s.batch.push job).map fun q => { s with batch := q }

/-- The latency of a submission is estimated and recorded. -/
def recordLatency : AiScheduler :=
  let latency := estimateLatency s.stats.qosMode s.stats.budgetPct s.stats.queueDepth
  { s with
    stats.lastLatency := latency
    stats.latencyAccum := s.stats.latencyAccum + latency
    stats.latencyMax := if s.stats.latencyMax < latency then latency else s.stats.latencyMax }

/-- The loop of a submission, which waits for its flag. -/
def spin (done : Nat) : Nat → AiScheduler → AiScheduler
  | 0, s => s
  | budget + 1, s =>
    if s.memory done ≠ 0 then s else spin done budget (s.drainQueues s.schedulerBudgetJobs)

/-- The submission is turned away before it is counted. -/
def Rejects (r : Submission) : Prop :=
  r.modelName = none ∨ r.outValue = none ∨ 63 ≤ s.stream.depth + s.batch.depth

instance (r : Submission) : Decidable (s.Rejects r) := inferInstanceAs (Decidable (_ ∨ _))

def aiSchedulerSubmitInfer (r : Submission) : AiScheduler × Bool :=
  let s := s.write (some r.done) 0
  match r.modelName, r.outValue with
  | some modelName, some _ =>
    let s := s.refreshQueueDepths
    if 63 ≤ s.stats.queueDepth then (s.countDropped, false)
    else
      let s := { s with stats.submitted := s.stats.submitted + 1 }
      match s.enqueue (r.job modelName) with
      | none => (s.countDropped, false)
      | some s =>
        let s := spin r.done 128 s.refreshQueueDepths.recordLatency
        if s.memory r.done = 0 then (s.countDropped, false) else (s, true)
  | _, _ => (s.countDropped, false)

end AiScheduler

/-- The arguments of a benchmark, the times of its submissions and the addresses of its result and
of their flags. -/
structure Bench where
  modelName : Option CString
  rounds : Int32
  inputValue : Int32
  seed : UInt32
  now : Nat → UInt32
  out : Nat
  done : Nat
  fresh : out ≠ done

def Bench.submission (b : Bench) (i : Nat) : Submission where
  modelName := b.modelName
  inputValue := b.inputValue + Int32.ofNat i
  seed := b.seed + UInt32.ofNat i
  outValue := some b.out
  now := b.now i
  done := b.done
  fresh h := b.fresh (Option.some.inj h)

/-- What a benchmark counts. -/
structure BenchResult where
  ok : UInt32
  latSum : UInt32
  latMax : UInt32

namespace AiScheduler

def benchRound (b : Bench) (x : AiScheduler × BenchResult) (i : Nat) : AiScheduler × BenchResult :=
  let r := (x.1.write (some b.out) 0).aiSchedulerSubmitInfer (b.submission i)
  if r.2 then
    (r.1,
      { ok := x.2.ok + 1
        latSum := x.2.latSum + r.1.stats.lastLatency
        latMax := if x.2.latMax < r.1.stats.lastLatency then r.1.stats.lastLatency
          else x.2.latMax })
  else (r.1, x.2)

/-- The results are the number of submissions that returned 1, their average latency and the
greatest one. -/
def aiSchedulerRunBench (s : AiScheduler) (b : Bench) :
    AiScheduler × Option (UInt32 × UInt32 × UInt32) :=
  if b.modelName = none ∨ b.rounds ≤ 0 ∨ 4096 < b.rounds then (s, none)
  else
    let r := (List.range b.rounds.toNatClampNeg).foldl (benchRound b) (s, ⟨0, 0, 0⟩)
    (r.1.drainQueues 1024,
      some (r.2.ok, if r.2.ok = 0 then 0 else r.2.latSum / r.2.ok, r.2.latMax))

end AiScheduler

def aiSchedulerInit (stream batch : Fin 64 → AiQueuedJob) (runtime : AiRuntime)
    (memory : Nat → UInt32) : AiScheduler where
  stats := ⟨aiQosLatency, 50, 0, 0, 0, 0, 0, 0, 0, 0, 0, 0, 0⟩
  stream := ⟨fun i => { stream i with inUse := false }, 0, 0⟩
  batch := ⟨fun i => { batch i with inUse := false }, 0, 0⟩
  runtime := runtime
  memory := memory

end NeuroSpark.Ai
