import NeuroSpark.Disk.Batch
import NeuroSpark.Mem.Heap
import NeuroSpark.Mem.ResultCalls
import NeuroSpark.Proc.Resources

/-!
# Asynchronous input and output

A task sets up a context, hands in control blocks with `SYS_IO_SUBMIT` and asks for their events
with `SYS_IO_GETEVENTS`. Nothing is done at submission beyond the checks, except that the bytes to
be written are copied; the disk works when the events are asked for. The calls are those of Ring 3.
The memory of the state is that of the task that runs.
-/

namespace NeuroSpark

def aioOpRead : BitVec 32 := 0
def aioOpWrite : BitVec 32 := 1

@[simp] lemma aioOpRead_ne_aioOpWrite : aioOpRead ≠ aioOpWrite := by decide
@[simp] lemma aioOpWrite_ne_aioOpRead : aioOpWrite ≠ aioOpRead := by decide

structure NsIoCb where
  opcode : BitVec 32
  lba : BitVec 32
  buf : BitVec 32
  nbytes : BitVec 32
  userData : BitVec 32
  deriving DecidableEq

structure NsIoEvent where
  userData : BitVec 32
  result : BitVec 32
  deriving DecidableEq

structure NsAioReq where
  used : Bool
  opcode : BitVec 32
  lba : BitVec 32
  userBuf : BitVec 32
  nbytes : BitVec 32
  userData : BitVec 32
  result : BitVec 32
  sector : Sector

/-- `NsAioCtx` with its requests. -/
structure NsAioContext extends NsAioCtx where
  reqCount : Nat
  reqs : Nat → NsAioReq

/-- What `DiskIoResult` has besides `DISK_IO_OK`. -/
inductive DiskIoError where
  | noDevice
  | noReadyPort
  | timeout
  | tfes
  | unsupported
  deriving DecidableEq

def DiskIoError.code : DiskIoError → BitVec 32
  | .noDevice => -1
  | .noReadyPort => -2
  | .timeout => -3
  | .tfes => -4
  | .unsupported => -5

@[simp] lemma DiskIoError.code_ne_zero (e : DiskIoError) : e.code ≠ 0#32 := by
  cases e <;> decide

/-- `readErrors` is no variable of the source: it says with which error a sector cannot be read. -/
structure AioState where
  osCurrentTask : Fin 8
  memory : TaskMemory
  aioContexts : Fin 4 → NsAioContext
  dev : Device
  readErrors : Nat → DiskIoError
  diskSchedStats : DiskSchedulerStats

def TaskMemory.loadSector (m : TaskMemory) (addr : BitVec 32) : Sector :=
  Bytes.ofFun fun k => UInt8.ofBitVec (m.loadByte (addr + BitVec.ofNat 32 k))

def sectorBytes (data : Sector) : List (BitVec 8) :=
  (List.range 512).map fun k => (data.get k).toBitVec

def loadIoCb (m : TaskMemory) (addr : BitVec 32) : NsIoCb where
  opcode := m.loadWord addr
  lba := m.loadWord (addr + 4)
  buf := m.loadWord (addr + 8)
  nbytes := m.loadWord (addr + 12)
  userData := m.loadWord (addr + 16)

/-- The array of control blocks at `iocb`. -/
def loadIoCbs (m : TaskMemory) (iocb nr : BitVec 32) : List NsIoCb :=
  (List.range nr.toNat).map fun i => loadIoCb m (iocb + BitVec.ofNat 32 (20 * i))

/-- What is stored at one pointer. -/
structure Store where
  ptr : BitVec 32
  data : List (BitVec 8)

def TaskMemory.storeAll (m : TaskMemory) (stores : List Store) : TaskMemory :=
  stores.foldl (fun m store => m.storeBytes store.ptr store.data) m

@[simp] lemma TaskMemory.storeAll_nil (m : TaskMemory) : m.storeAll [] = m := rfl

@[simp] lemma TaskMemory.storeAll_cons (m : TaskMemory) (store : Store) (stores : List Store) :
    m.storeAll (store :: stores) = (m.storeBytes store.ptr store.data).storeAll stores := rfl

lemma TaskMemory.storeAll_append (m : TaskMemory) (stores stores' : List Store) :
    m.storeAll (stores ++ stores') = (m.storeAll stores).storeAll stores' := List.foldl_append ..

def aioCtxHandleToSlot (handle : BitVec 32) : Option (Fin 4) :=
  let slot := handle.toInt - 1
  if h : slot < 0 ∨ 4 ≤ slot then none else some ⟨slot.toNat, by omega⟩

def aioCtxFromHandle (s : AioState) (handle : BitVec 32) : Option (Fin 4) :=
  match aioCtxHandleToSlot handle with
  | none => none
  | some slot =>
    if (s.aioContexts slot).used = false ∨
        (s.aioContexts slot).ownerTask ≠ (s.osCurrentTask : Nat) then none
    else some slot

def AioState.setContext (s : AioState) (slot : Fin 4) (ctx : NsAioContext) : AioState :=
  { s with aioContexts := Function.update s.aioContexts slot ctx }

@[simp] lemma AioState.aioContexts_setContext (s : AioState) (slot : Fin 4) (ctx : NsAioContext) :
    (s.setContext slot ctx).aioContexts = Function.update s.aioContexts slot ctx := rfl

/-- The context at `ctx` after it was given to a task. -/
def NsAioContext.given (ctx : NsAioContext) (task : Fin 8) (maxevents : BitVec 32) :
    NsAioContext where
  used := true
  ownerTask := (task : Nat)
  maxevents := UInt32.ofBitVec maxevents
  reqCount := 0
  reqs r := { ctx.reqs r with used := false, result := errWouldBlock }

def AioState.allocContext (s : AioState) (maxevents : BitVec 32) : AioState × BitVec 32 :=
  match (List.finRange 4).find? fun i => !(s.aioContexts i).used with
  | none => (s, 0)
  | some i =>
    (s.setContext i ((s.aioContexts i).given s.osCurrentTask maxevents), BitVec.ofNat 32 (i + 1))

def AioState.closeAllForTask (s : AioState) (task : Fin 8) : AioState :=
  { s with
    aioContexts := fun i =>
      let ctx := s.aioContexts i
      if ctx.used = true ∧ ctx.ownerTask = (task : Nat) then
        { ctx with used := false, ownerTask := -1, maxevents := 0, reqCount := 0 }
      else ctx }

/-- `none` when the control block is refused. -/
def aioSubmitOne (m : TaskMemory) (ctx : NsAioContext) (cb : NsIoCb) : Option NsAioContext :=
  if aioMaxReq.toNat ≤ ctx.reqCount then none
  else if (cb.opcode ≠ aioOpRead ∧ cb.opcode ≠ aioOpWrite) ∨ cb.nbytes ≠ 512 then none
  else if m.validateUserPtr cb.buf cb.nbytes = false then none
  else
    let req := ctx.reqs ctx.reqCount
    -- a write copies all `nbytes` bytes, which are those of a sector
    let sector := if cb.opcode = aioOpWrite then m.loadSector cb.buf else req.sector
    some
      { ctx with
        reqs := Function.update ctx.reqs ctx.reqCount
          ⟨true, cb.opcode, cb.lba, cb.buf, cb.nbytes, cb.userData, errWouldBlock, sector⟩
        reqCount := ctx.reqCount + 1 }

/-- The loop of `SYS_IO_SUBMIT`, which stops at the first control block that is refused, with the
number of those accepted. -/
def aioSubmitAll (m : TaskMemory) (ctx : NsAioContext) : List NsIoCb → NsAioContext × Nat
  | [] => (ctx, 0)
  | cb :: cbs =>
    match aioSubmitOne m ctx cb with
    | none => (ctx, 0)
    | some ctx' => ((aioSubmitAll m ctx' cbs).1, (aioSubmitAll m ctx' cbs).2 + 1)

def DiskIoResult.code (readError : DiskIoError) : DiskIoResult → BitVec 32
  | .ok => 0
  | .errUnsupported => DiskIoError.unsupported.code
  | .errRead => readError.code

/-- Where the sector of request `i` lies, counted from the start of the context: 16 bytes come
before the requests, and in each of the requests, which have 540 bytes, 28 bytes before the sector.
-/
def aioSectorAddr (i : Nat) : Nat := 16 + 540 * i + 28

def aioSectors (reqs : Nat → NsAioReq) : Memory := fun a =>
  (reqs ((a - 44) / 540)).sector.get ((a - 44) % 540)

/-- The batch for the requests of a context. What its results are set to is not seen: they are set
again before the disk is asked. -/
def aioBatch (s : AioState) (ctx : NsAioContext) : BatchState where
  dev := s.dev
  mem := aioSectors ctx.reqs
  reqs i :=
    { lba := (ctx.reqs i).lba.toNat
      buffer := aioSectorAddr i
      write := decide ((ctx.reqs i).opcode = aioOpWrite)
      result := .errUnsupported }
  diskSchedStats := s.diskSchedStats
  executed := []

/-- What one round of the loop over the finished requests stores: the sector that was read, and the
event. -/
structure AioServed where
  delivered : Option Store
  event : NsIoEvent

def AioServed.eventStore (v : AioServed) (events : BitVec 32) : Store :=
  ⟨events, wordsBytes [v.event.userData, v.event.result]⟩

def AioServed.stores (v : AioServed) (events : BitVec 32) : List Store :=
  v.delivered.toList ++ [v.eventStore events]

/-- The stores of the loop, with `events` the address of the first event. -/
def servedStores (events : BitVec 32) : List AioServed → List Store
  | [] => []
  | v :: vs => v.stores events ++ servedStores (events + 8) vs

/-- The request after the batch `b`, in which it had number `i`. -/
def finishedReq (readErrors : Nat → DiskIoError) (b : BatchState) (i : Nat) (req : NsAioReq) :
    NsAioReq :=
  { req with
    result := (b.reqs i).result.code (readErrors req.lba.toNat)
    sector := loadSector b.mem (aioSectorAddr i) }

def servedReq (req : NsAioReq) : AioServed where
  delivered :=
    if req.result = 0 ∧ req.opcode = aioOpRead then
      some ⟨req.userBuf, (sectorBytes req.sector).take req.nbytes.toNat⟩
    else none
  event := ⟨req.userData, req.result⟩

/-- The requests from number `n` on move down to the start. -/
def shiftReqs (reqs : Nat → NsAioReq) (n count : Nat) : Nat → NsAioReq :=
  (List.range' n (count - n)).foldl (fun reqs i => Function.update reqs (i - n) (reqs i)) reqs

/-- How many requests a call finishes. -/
def aioToProcess (ctx : NsAioContext) (maxevents : BitVec 32) : Nat :=
  min ctx.reqCount maxevents.toNat

/-- With nothing to do the call returns early. No sector has a null address, so that the batch never
comes to read an entry nobody wrote, which the last case stands for. -/
def aioProcessEvents (s : AioState) (slot : Fin 4) (maxevents : BitVec 32) :
    AioState × List AioServed :=
  let ctx := s.aioContexts slot
  let n := aioToProcess ctx maxevents
  if n = 0 then (s, [])
  else
    match diskProcessBatch (aioBatch s ctx) n with
    | some (b, _) =>
      let reqs := fun i => if i < n then finishedReq s.readErrors b i (ctx.reqs i) else ctx.reqs i
      let ctx := { ctx with reqs := shiftReqs reqs n ctx.reqCount, reqCount := ctx.reqCount - n }
      ({ s.setContext slot ctx with dev := b.dev, diskSchedStats := b.diskSchedStats },
        (List.range n).map fun i => servedReq (reqs i))
    | none => (s, [])

/-- The result of a call. Of the others a program sees only what they leave in its memory: the
control blocks that were accepted, and the events that were stored. -/
structure AioAnswer where
  result : BitVec 32
  accepted : List NsIoCb
  events : List NsIoEvent
  deriving DecidableEq

def AioAnswer.code (result : BitVec 32) : AioAnswer := ⟨result, [], []⟩

namespace AioState

def setup (s : AioState) (maxevents ctxOut : BitVec 32) : AioState × AioAnswer :=
  if (maxevents = 0 ∨ aioMaxReq < maxevents) ∨ s.memory.validateUserPtr ctxOut 4 = false then
    (s, .code errInvalidArg)
  else
    let (s, handle) := s.allocContext maxevents
    if handle = 0 then (s, .code errNoSpace)
    else ({ s with memory := s.memory.storeBytes ctxOut (wordBytes handle) }, .code okWord)

def submit (s : AioState) (handle nr iocb : BitVec 32) : AioState × AioAnswer :=
  match aioCtxFromHandle s handle with
  | none => (s, .code errInvalidArg)
  | some slot =>
    if (nr = 0 ∨ aioMaxReq < nr) ∨ s.memory.validateUserPtr iocb (nr * 20) = false then
      (s, .code errInvalidArg)
    else
      let cbs := loadIoCbs s.memory iocb nr
      let (ctx, accepted) := aioSubmitAll s.memory (s.aioContexts slot) cbs
      (s.setContext slot ctx,
        { result := if 0 < accepted then BitVec.ofNat 32 accepted else errWouldBlock
          accepted := cbs.take accepted
          events := [] })

/-- The events a context allows in one call. -/
def cappedEvents (ctx : NsAioContext) (maxevents : BitVec 32) : BitVec 32 :=
  if ctx.maxevents.toBitVec < maxevents then ctx.maxevents.toBitVec else maxevents

def getevents (s : AioState) (handle maxevents events : BitVec 32) : AioState × AioAnswer :=
  match aioCtxFromHandle s handle with
  | none => (s, .code errInvalidArg)
  | some slot =>
    if maxevents = 0 ∨ s.memory.validateUserPtr events (maxevents * 8) = false then
      (s, .code errInvalidArg)
    else
      let (s, served) := aioProcessEvents s slot (cappedEvents (s.aioContexts slot) maxevents)
      ({ s with memory := s.memory.storeAll (servedStores events served) },
        ⟨BitVec.ofNat 32 served.length, [], served.map AioServed.event⟩)

end AioState

/-- What happens to the contexts: the calls of the task that runs, among them those that change its
mappings, and its end; the processor goes to a task, whose memory is then as it and the others have
left it; and all other work of the disk. -/
inductive AioOp where
  | setup (maxevents ctxOut : BitVec 32)
  | submit (handle nr iocb : BitVec 32)
  | getevents (handle maxevents events : BitVec 32)
  | munmap (addr len : BitVec 32)
  | brk (call : BreakCall)
  | exit
  | resume (task : Fin 8) (memory : TaskMemory)
  | disk (dev : Device) (readErrors : Nat → DiskIoError)

def AioState.step (s : AioState) : AioOp → AioState × AioAnswer
  | .setup maxevents ctxOut => s.setup maxevents ctxOut
  | .submit handle nr iocb => s.submit handle nr iocb
  | .getevents handle maxevents events => s.getevents handle maxevents events
  | .munmap addr len =>
    ({ s with memory := (sysMunmap s.memory addr len).1 }, .code (sysMunmap s.memory addr len).2)
  | .brk call =>
    ({ s with memory := (breakStep s.memory call).1 }, .code (breakStep s.memory call).2)
  | .exit => (s.closeAllForTask s.osCurrentTask, .code okWord)
  | .resume task memory => ({ s with osCurrentTask := task, memory := memory }, .code okWord)
  | .disk dev readErrors => ({ s with dev := dev, readErrors := readErrors }, .code okWord)

end NeuroSpark
