import NeuroSpark.Aio.Contexts

/-!
# Asynchronous requests as queues

What a context is for: a queue of at most 64 requests, each with the bytes to be written as they
were when it was handed in. A completion takes requests from its front and executes them one after
the other.
-/

namespace NeuroSpark

inductive AioRequest where
  | read (lba buf userData : BitVec 32)
  | write (lba : BitVec 32) (data : Sector) (userData : BitVec 32)
  deriving DecidableEq

structure AioQueue where
  owner : Int
  maxevents : UInt32
  pending : List AioRequest

/-- The running task with its memory, a place for each queue, and the disk. -/
structure AioQueues where
  current : Fin 8
  memory : TaskMemory
  queues : Fin 4 → Option AioQueue
  dev : Device

namespace AioRequest

def userData : AioRequest → BitVec 32
  | read _ _ userData => userData
  | write _ _ userData => userData

def event (r : AioRequest) : NsIoEvent := ⟨r.userData, 0⟩

def after (dev : Device) : AioRequest → Device
  | read _ _ _ => dev
  | write lba data _ => diskWriteSectorUncached dev lba.toNat data

/-- A read delivers its sector; the event is stored behind that. -/
def deliver (events : BitVec 32) (memory : TaskMemory) (dev : Device) : AioRequest → TaskMemory
  | read lba buf userData =>
    (memory.storeBytes buf (sectorBytes (dev.contents lba.toNat))).storeBytes events
      (wordsBytes [userData, 0])
  | write _ _ userData => memory.storeBytes events (wordsBytes [userData, 0])

/-- Execute requests one after the other; their events go to `events` and behind. -/
def executeAll (events : BitVec 32) (memory : TaskMemory) (dev : Device) :
    List AioRequest → TaskMemory × Device
  | [] => (memory, dev)
  | r :: rs => executeAll (events + 8) (r.deliver events memory dev) (r.after dev) rs

/-- The request of a control block, with the bytes that are in memory now. -/
def ofCb (m : TaskMemory) (cb : NsIoCb) : AioRequest :=
  if cb.opcode = aioOpWrite then write cb.lba (m.loadSector cb.buf) cb.userData
  else read cb.lba cb.buf cb.userData

end AioRequest

namespace AioQueues

def set (a : AioQueues) (slot : Fin 4) (q : AioQueue) : AioQueues :=
  { a with queues := Function.update a.queues slot (some q) }

/-- The queue of a handle, if the running task has it. -/
def find (a : AioQueues) (handle : BitVec 32) : Option (Fin 4 × AioQueue) := do
  let slot ← aioCtxHandleToSlot handle
  let q ← a.queues slot
  if q.owner = (a.current : Nat) then some (slot, q) else none

def setup (a : AioQueues) (maxevents ctxOut : BitVec 32) : AioQueues × AioAnswer :=
  if (maxevents = 0 ∨ aioMaxReq < maxevents) ∨ a.memory.validateUserPtr ctxOut 4 = false then
    (a, .code errInvalidArg)
  else
    match (List.finRange 4).find? fun i => (a.queues i).isNone with
    | none => (a, .code errNoSpace)
    | some i =>
      ({ a.set i ⟨(a.current : Nat), UInt32.ofBitVec maxevents, []⟩ with
          memory := a.memory.storeBytes ctxOut (wordBytes (BitVec.ofNat 32 (i + 1))) },
        .code okWord)

/-- The control blocks up to the first that is not acceptable join the queue, as far as it has room.
-/
def submit (a : AioQueues) (handle nr iocb : BitVec 32) : AioQueues × AioAnswer :=
  match a.find handle with
  | none => (a, .code errInvalidArg)
  | some (slot, q) =>
    if (nr = 0 ∨ aioMaxReq < nr) ∨ a.memory.validateUserPtr iocb (nr * 20) = false then
      (a, .code errInvalidArg)
    else
      let accepted := acceptedCbs a.memory (64 - q.pending.length) (loadIoCbs a.memory iocb nr)
      (a.set slot { q with pending := q.pending ++ accepted.map (AioRequest.ofCb a.memory) },
        { result := if 0 < accepted.length then BitVec.ofNat 32 accepted.length else errWouldBlock
          accepted := accepted
          events := [] })

/-- The first requests of the queue are executed. -/
def getevents (a : AioQueues) (handle maxevents events : BitVec 32) : AioQueues × AioAnswer :=
  match a.find handle with
  | none => (a, .code errInvalidArg)
  | some (slot, q) =>
    if maxevents = 0 ∨ a.memory.validateUserPtr events (maxevents * 8) = false then
      (a, .code errInvalidArg)
    else
      let n := min q.pending.length (min maxevents.toNat q.maxevents.toNat)
      let done := q.pending.take n
      let r := AioRequest.executeAll events a.memory a.dev done
      ({ a.set slot { q with pending := q.pending.drop n } with memory := r.1, dev := r.2 },
        ⟨BitVec.ofNat 32 n, [], done.map AioRequest.event⟩)

def exit (a : AioQueues) : AioQueues :=
  { a with queues := fun slot => (a.queues slot).filter fun q => q.owner ≠ (a.current : Nat) }

def step (a : AioQueues) : AioOp → AioQueues × AioAnswer
  | .setup maxevents ctxOut => a.setup maxevents ctxOut
  | .submit handle nr iocb => a.submit handle nr iocb
  | .getevents handle maxevents events => a.getevents handle maxevents events
  | .munmap addr len =>
    ({ a with memory := (sysMunmap a.memory addr len).1 }, .code (sysMunmap a.memory addr len).2)
  | .brk call =>
    ({ a with memory := (breakStep a.memory call).1 }, .code (breakStep a.memory call).2)
  | .exit => (a.exit, .code okWord)
  | .resume task memory => ({ a with current := task, memory := memory }, .code okWord)
  | .disk dev _ => ({ a with dev := dev }, .code okWord)

end AioQueues

def NsAioReq.request (req : NsAioReq) : AioRequest :=
  if req.opcode = aioOpWrite then .write req.lba req.sector req.userData
  else .read req.lba req.userBuf req.userData

def NsAioContext.pending (ctx : NsAioContext) : List AioRequest :=
  (List.range ctx.reqCount).map fun i => (ctx.reqs i).request

def NsAioContext.view (ctx : NsAioContext) : Option AioQueue :=
  if ctx.used then some ⟨ctx.ownerTask, ctx.maxevents, ctx.pending⟩ else none

def AioState.view (s : AioState) : AioQueues where
  current := s.osCurrentTask
  memory := s.memory
  queues slot := (s.aioContexts slot).view
  dev := s.dev

@[simp] lemma NsAioContext.length_pending (ctx : NsAioContext) :
    ctx.pending.length = ctx.reqCount := by
  simp [NsAioContext.pending]

lemma NsAioContext.view_of_used {ctx : NsAioContext} (h : ctx.used = true) :
    ctx.view = some ⟨ctx.ownerTask, ctx.maxevents, ctx.pending⟩ := if_pos h

lemma AioState.view_setContext (s : AioState) (slot : Fin 4) {ctx : NsAioContext}
    (h : ctx.used = true) :
    (s.setContext slot ctx).view = s.view.set slot ⟨ctx.ownerTask, ctx.maxevents, ctx.pending⟩ := by
  have hqueues : (fun i => ((s.setContext slot ctx).aioContexts i).view) =
      Function.update s.view.queues slot (some ⟨ctx.ownerTask, ctx.maxevents, ctx.pending⟩) := by
    funext i
    by_cases hi : i = slot
    · subst hi
      rw [AioState.aioContexts_setContext, Function.update_self, Function.update_self,
        NsAioContext.view_of_used h]
    · rw [AioState.aioContexts_setContext, Function.update_of_ne hi, Function.update_of_ne hi]
      rfl
  unfold AioState.view AioQueues.set
  rw [hqueues]
  rfl

lemma AioState.find_view (s : AioState) (handle : BitVec 32) :
    s.view.find handle = (aioCtxFromHandle s handle).map fun slot =>
      (slot, ⟨(s.osCurrentTask : Nat), (s.aioContexts slot).maxevents,
        (s.aioContexts slot).pending⟩) := by
  unfold AioQueues.find aioCtxFromHandle
  cases aioCtxHandleToSlot handle with
  | none => rfl
  | some slot =>
    have hview : s.view.queues slot = (s.aioContexts slot).view := rfl
    have hcurrent : s.view.current = s.osCurrentTask := rfl
    by_cases hused : (s.aioContexts slot).used = true
    · by_cases howner : (s.aioContexts slot).ownerTask = s.osCurrentTask
      · simp [hview, hcurrent, NsAioContext.view_of_used, hused, howner]
      · simp [hview, hcurrent, NsAioContext.view_of_used, hused, howner]
    · simp [hview, NsAioContext.view, hused]

lemma AioRequest.of_req (m : TaskMemory) (cb : NsIoCb) (old : NsAioReq) :
    (cb.req m old).request = AioRequest.ofCb m cb := by
  unfold NsAioReq.request NsIoCb.req AioRequest.ofCb
  split_ifs
  · rfl
  · rfl

lemma NsAioContext.pending_push (ctx : NsAioContext) (req : NsAioReq) :
    (ctx.push req).pending = ctx.pending ++ [req.request] := by
  have hold : (List.range ctx.reqCount).map (fun i => ((ctx.push req).reqs i).request) =
      ctx.pending := by
    apply List.map_congr_left
    intro i hi
    rw [ctx.push_reqs_of_lt req (List.mem_range.mp hi)]
  rw [NsAioContext.pending, NsAioContext.push_reqCount, List.range_succ, List.map_append, hold,
    List.map_singleton, ctx.push_reqs_last]

/-- What the loop does to the context. -/
structure NsAioContext.Submits (ctx : NsAioContext) (rs : List AioRequest) (ctx' : NsAioContext) :
    Prop where
  used : ctx'.used = ctx.used
  ownerTask : ctx'.ownerTask = ctx.ownerTask
  maxevents : ctx'.maxevents = ctx.maxevents
  pending : ctx'.pending = ctx.pending ++ rs

lemma aioSubmitAll_spec (m : TaskMemory) (ctx : NsAioContext) (cbs : List NsIoCb) :
    ctx.Submits ((acceptedCbs m (64 - ctx.reqCount) cbs).map (AioRequest.ofCb m))
      (aioSubmitAll m ctx cbs).1 := by
  induction cbs generalizing ctx with
  | nil => exact ⟨rfl, rfl, rfl, by simp [aioSubmitAll, acceptedCbs]⟩
  | cons cb cbs ih =>
    rw [aioSubmitAll_cons, acceptedCbs_cons]
    split_ifs
    · obtain ⟨hused, howner, hmax, hpending⟩ := ih (ctx.push (cb.req m (ctx.reqs ctx.reqCount)))
      refine ⟨hused, howner, hmax, ?_⟩
      rw [hpending, NsAioContext.pending_push, AioRequest.of_req, NsAioContext.push_reqCount,
        Nat.sub_add_eq, List.map_cons, List.append_assoc, List.singleton_append]
    · exact ⟨rfl, rfl, rfl, (List.append_nil _).symm⟩

/-! ### Completion -/

namespace AioRequest

/-- What is stored for a request on a device that does not fail. -/
def served (dev : Device) : AioRequest → AioServed
  | read lba buf userData => ⟨some ⟨buf, sectorBytes (dev.contents lba.toNat)⟩, userData, 0⟩
  | write _ _ userData => ⟨none, userData, 0⟩

def servedAll (dev : Device) : List AioRequest → List AioServed
  | [] => []
  | r :: rs => r.served dev :: servedAll (r.after dev) rs

def afterAll (dev : Device) (rs : List AioRequest) : Device :=
  rs.foldl after dev

lemma servedAll_append (dev : Device) (rs : List AioRequest) (r : AioRequest) :
    servedAll dev (rs ++ [r]) = servedAll dev rs ++ [r.served (afterAll dev rs)] := by
  induction rs generalizing dev with
  | nil => rfl
  | cons r' rs ih =>
    rw [List.cons_append, servedAll, ih]
    rfl

lemma afterAll_append (dev : Device) (rs : List AioRequest) (r : AioRequest) :
    afterAll dev (rs ++ [r]) = r.after (afterAll dev rs) := by
  rw [afterAll, List.foldl_append]
  rfl

lemma event_served (dev : Device) (r : AioRequest) :
    (r.served dev).event = r.event := by
  cases r with
  | read | write => rfl

lemma events_servedAll (dev : Device) (rs : List AioRequest) :
    (servedAll dev rs).map AioServed.event = rs.map event := by
  induction rs generalizing dev with
  | nil => rfl
  | cons r rs ih => rw [servedAll, List.map_cons, List.map_cons, event_served, ih]

lemma storeAll_served (events : BitVec 32) (memory : TaskMemory) (dev : Device)
    (r : AioRequest) :
    memory.storeAll ((r.served dev).stores events) = r.deliver events memory dev := by
  cases r with
  | read lba buf userData =>
    rw [served, AioServed.stores, AioServed.eventStore, Option.toList_some, List.singleton_append,
      TaskMemory.storeAll_cons, TaskMemory.storeAll_cons, TaskMemory.storeAll_nil, deliver]
  | write lba data userData =>
    rw [served, AioServed.stores, AioServed.eventStore, Option.toList_none, List.nil_append,
      TaskMemory.storeAll_cons, TaskMemory.storeAll_nil, deliver]

/-- All the stores of a completion, made at its end, do what execution one after the other does. -/
lemma executeAll_eq (events : BitVec 32) (memory : TaskMemory) (dev : Device)
    (rs : List AioRequest) : executeAll events memory dev rs =
      (memory.storeAll (servedStores events (servedAll dev rs)), afterAll dev rs) := by
  induction rs generalizing events memory dev with
  | nil => rfl
  | cons r rs ih =>
    have hstores : memory.storeAll (servedStores events (servedAll dev (r :: rs))) =
        (r.deliver events memory dev).storeAll
          (servedStores (events + 8) (servedAll (r.after dev) rs)) := by
      rw [servedAll, servedStores, TaskMemory.storeAll_append, storeAll_served]
    rw [executeAll, ih, hstores]
    rfl

end AioRequest

lemma take_sectorBytes (data : Sector) : (sectorBytes data).take 512 = sectorBytes data := by
  have hlength : (sectorBytes data).length = 512 := by
    rw [sectorBytes, List.length_map, List.length_range]
  exact List.take_of_length_le hlength.le

section Faultless

variable {dev : Device} {req : NsAioReq}

lemma NsAioReq.servedOn_faultless (hdev : dev.Faultless) (hreq : req.Sound)
    (readErrors : Nat → DiskIoError) : req.servedOn readErrors dev = req.request.served dev := by
  have hbytes : req.nbytes.toNat = 512 := by
    rw [hreq.nbytes]
    rfl
  unfold NsAioReq.servedOn NsAioReq.request
  split_ifs
  · rfl
  · simp only [hdev.read, hbytes, take_sectorBytes]
    rfl

lemma NsAioReq.onDevice_eq (req : NsAioReq) (dev : Device) :
    req.onDevice dev = req.request.after dev := by
  unfold NsAioReq.onDevice NsAioReq.request
  split_ifs <;> rfl

lemma deviceAfter_faultless (hdev : dev.Faultless) (reqs : Nat → NsAioReq) (l : List Nat) :
    (deviceAfter dev reqs l).Faultless := by
  induction l using List.reverseRecOn with
  | nil => exact hdev
  | append_singleton l k ih =>
    rw [deviceAfter_append, NsAioReq.onDevice]
    split_ifs
    · exact ih.write ..
    · exact ih

lemma deviceAfter_range (hdev : dev.Faultless) {ctx : NsAioContext} (hctx : ctx.Sound)
    (readErrors : Nat → DiskIoError) {n : Nat} (hn : n ≤ ctx.reqCount) :
    deviceAfter dev ctx.reqs (List.range n) = AioRequest.afterAll dev (ctx.pending.take n) ∧
      (List.range n).map (fun i => (ctx.reqs i).servedOn readErrors
          (deviceAfter dev ctx.reqs (List.range i))) =
        AioRequest.servedAll dev (ctx.pending.take n) := by
  induction n with
  | zero => exact ⟨rfl, rfl⟩
  | succ n ih =>
    obtain ⟨hafter, hserved⟩ := ih (by omega)
    have htake : ctx.pending.take (n + 1) = ctx.pending.take n ++ [(ctx.reqs n).request] := by
      have hlast : n < ctx.pending.length := by
        rw [ctx.length_pending]
        omega
      rw [List.take_add_one, List.getElem?_eq_getElem hlast]
      simp [NsAioContext.pending]
    rw [htake, List.range_succ, deviceAfter_append, AioRequest.afterAll_append,
      AioRequest.servedAll_append, ← hafter, List.map_append, hserved, List.map_singleton,
      NsAioReq.servedOn_faultless (deviceAfter_faultless hdev _ _) (hctx.reqs n hn),
      NsAioReq.onDevice_eq]
    exact ⟨rfl, rfl⟩

end Faultless

/-! ### Refinement -/

/-- The states of a kernel whose disk does not fail. -/
structure AioState.Reliable (s : AioState) : Prop where
  sound : s.Sound
  dev : s.dev.Faultless

/-- The disk goes on without failures. -/
def AioOp.Healthy : AioOp → Prop
  | .disk dev _ => dev.Faultless
  | _ => True

/-- The requests for each sector whose events are asked for are in the order of their LBAs. -/
def AioState.SectorsInOrder (s : AioState) : AioOp → Prop
  | .getevents handle maxevents _ => ∀ slot, aioCtxFromHandle s handle = some slot →
      (aioBatch s (s.aioContexts slot)).SectorsInOrder
        (aioToProcess (s.aioContexts slot) (AioState.cappedEvents (s.aioContexts slot) maxevents))
  | _ => True

instance (s : AioState) : ∀ op, Decidable (s.SectorsInOrder op)
  | .getevents _ _ _ => inferInstanceAs (Decidable (∀ _, _ → ∀ j < _, ∀ i < j, _ → _ → _))
  | .setup _ _ | .submit _ _ _ | .munmap _ _ | .brk _ | .exit | .resume _ _
  | .disk _ _ => isTrue trivial

lemma NsAioContext.isNone_view (ctx : NsAioContext) : ctx.view.isNone = !ctx.used := by
  unfold NsAioContext.view
  cases ctx.used <;> rfl

lemma NsAioContext.Drops.pending {ctx ctx' : NsAioContext} {n : Nat} (h : ctx.Drops n ctx') :
    ctx'.pending = ctx.pending.drop n := by
  have hcount := h.reqCount
  apply List.ext_getElem
  · simp [hcount]
  · intro i hi hi'
    rw [ctx'.length_pending] at hi
    simp [NsAioContext.pending, h.reqs i (by omega), Nat.add_comm]

lemma toNat_cappedEvents (ctx : NsAioContext) (maxevents : BitVec 32) :
    (AioState.cappedEvents ctx maxevents).toNat = min maxevents.toNat ctx.maxevents.toNat := by
  have hmax : ctx.maxevents.toBitVec.toNat = ctx.maxevents.toNat := rfl
  unfold AioState.cappedEvents
  split_ifs with h
  · rw [BitVec.lt_def] at h
    omega
  · rw [BitVec.lt_def] at h
    omega

section Refinement

variable {s : AioState}

lemma AioState.view_setup (s : AioState) (maxevents ctxOut : BitVec 32) :
    ((s.setup maxevents ctxOut).1.view, (s.setup maxevents ctxOut).2) =
      s.view.setup maxevents ctxOut := by
  by_cases hrefused : (maxevents = 0 ∨ aioMaxReq < maxevents) ∨
      s.memory.validateUserPtr ctxOut 4 = false
  · rw [AioState.setup, if_pos hrefused]
    exact (if_pos hrefused).symm
  · have hfind : (List.finRange 4).find? (fun i => (s.view.queues i).isNone) =
        (List.finRange 4).find? fun i => !(s.aioContexts i).used := by
      simp only [AioState.view, NsAioContext.isNone_view]
    rw [AioState.setup_eq hrefused]
    refine Eq.trans ?_ (if_neg hrefused).symm
    rw [hfind]
    cases (List.finRange 4).find? fun i => !(s.aioContexts i).used with
    | none => rfl
    | some i =>
      have hview := s.view_setContext i
        (rfl : ((s.aioContexts i).given s.osCurrentTask maxevents).used = true)
      change ({ (s.setContext i ((s.aioContexts i).given s.osCurrentTask maxevents)).view with
        memory := s.memory.storeBytes ctxOut (wordBytes (BitVec.ofNat 32 (i + 1))) }, _) = _
      rw [hview]
      rfl

lemma AioState.view_submit (s : AioState) (handle nr iocb : BitVec 32) :
    ((s.submit handle nr iocb).1.view, (s.submit handle nr iocb).2) =
      s.view.submit handle nr iocb := by
  unfold AioState.submit AioQueues.submit
  rw [s.find_view handle]
  cases hslot : aioCtxFromHandle s handle with
  | none => rfl
  | some slot =>
    obtain ⟨-, hused, howner⟩ := aioCtxFromHandle_spec hslot
    simp only [Option.map_some]
    by_cases hrefused : (nr = 0 ∨ aioMaxReq < nr) ∨
        s.memory.validateUserPtr iocb (nr * 20) = false
    · rw [if_pos hrefused]
      exact (if_pos hrefused).symm
    · rw [if_neg hrefused]
      refine Eq.trans ?_ (if_neg hrefused).symm
      obtain ⟨husd, hown, hmax, hpending⟩ := aioSubmitAll_spec s.memory (s.aioContexts slot)
        (loadIoCbs s.memory iocb nr)
      have hmemory : s.view.memory = s.memory := rfl
      have htake : (loadIoCbs s.memory iocb nr).take
          (acceptedCbs s.memory (64 - (s.aioContexts slot).reqCount)
            (loadIoCbs s.memory iocb nr)).length =
          acceptedCbs s.memory (64 - (s.aioContexts slot).reqCount) (loadIoCbs s.memory iocb nr) :=
        (List.prefix_iff_eq_take.mp (acceptedCbs_initial ..)).symm
      simp only [aioSubmitAll_count, htake, NsAioContext.length_pending, hmemory]
      rw [s.view_setContext slot (husd.trans hused), hown, hmax, hpending, howner]

section Getevents

variable {slot : Fin 4} {handle maxevents : BitVec 32} (events : BitVec 32)

lemma AioState.queues_getevents (hslot : aioCtxFromHandle s handle = some slot) {n : Nat}
    (hn : aioToProcess (s.aioContexts slot) (cappedEvents (s.aioContexts slot) maxevents) = n) :
    s.view.getevents handle maxevents events =
      if maxevents = 0 ∨ s.memory.validateUserPtr events (maxevents * 8) = false then
        (s.view, .code errInvalidArg)
      else
        ({ s.view.set slot ⟨(s.osCurrentTask : Nat), (s.aioContexts slot).maxevents,
              (s.aioContexts slot).pending.drop n⟩ with
            memory := s.memory.storeAll (servedStores events
              (AioRequest.servedAll s.dev ((s.aioContexts slot).pending.take n)))
            dev := AioRequest.afterAll s.dev ((s.aioContexts slot).pending.take n) },
          ⟨BitVec.ofNat 32 n, [], ((s.aioContexts slot).pending.take n).map AioRequest.event⟩) := by
  have hmin : min (s.aioContexts slot).pending.length
      (min maxevents.toNat (s.aioContexts slot).maxevents.toNat) = n := by
    rw [← hn, aioToProcess, toNat_cappedEvents, NsAioContext.length_pending]
  unfold AioQueues.getevents
  rw [s.find_view handle, hslot]
  simp only [Option.map_some, hmin, AioRequest.executeAll_eq]
  rfl

/-- A call for events takes the requests it finishes from the front of the queue. -/
lemma AioState.view_getevents_of_drops (hslot : aioCtxFromHandle s handle = some slot) {n : Nat}
    (hn : aioToProcess (s.aioContexts slot) (cappedEvents (s.aioContexts slot) maxevents) = n)
    {ctx' : NsAioContext} {dev : Device} {stats : DiskSchedulerStats} {served : List AioServed}
    (hdrops : (s.aioContexts slot).Drops n ctx')
    (hrun : aioProcessEvents s slot (cappedEvents (s.aioContexts slot) maxevents) =
      ({ s.setContext slot ctx' with dev := dev, diskSchedStats := stats }, served))
    (hevents : served.map AioServed.event =
      ((s.aioContexts slot).pending.take n).map AioRequest.event) :
    ((s.getevents handle maxevents events).1.view, (s.getevents handle maxevents events).2) =
      if maxevents = 0 ∨ s.memory.validateUserPtr events (maxevents * 8) = false then
        (s.view, .code errInvalidArg)
      else
        ({ s.view.set slot ⟨(s.osCurrentTask : Nat), (s.aioContexts slot).maxevents,
              (s.aioContexts slot).pending.drop n⟩ with
            memory := s.memory.storeAll (servedStores events served)
            dev := dev },
          ⟨BitVec.ofNat 32 n, [], ((s.aioContexts slot).pending.take n).map AioRequest.event⟩) := by
  obtain ⟨-, hused, howner⟩ := aioCtxFromHandle_spec hslot
  unfold AioState.getevents
  simp only [hslot]
  split_ifs with hrefused
  · rfl
  · have hlength : served.length = n := by
      have hle : n ≤ (s.aioContexts slot).reqCount := hn ▸ min_le_left ..
      rw [← List.length_map (f := AioServed.event), hevents, List.length_map, List.length_take,
        NsAioContext.length_pending, min_eq_left hle]
    have hview : (s.setContext slot ctx').view = s.view.set slot
        ⟨(s.osCurrentTask : Nat), (s.aioContexts slot).maxevents,
          (s.aioContexts slot).pending.drop n⟩ := by
      rw [s.view_setContext slot (hdrops.used.trans hused), hdrops.ownerTask, hdrops.maxevents,
        hdrops.pending, howner]
    simp only [hrun, hlength, hevents]
    refine Prod.ext ?_ rfl
    exact congrArg (fun a : AioQueues =>
      ({ a with memory := s.memory.storeAll (servedStores events served), dev := dev } : AioQueues))
      hview

lemma NsAioContext.Sound.events_servedOn {ctx : NsAioContext} (hctx : ctx.Sound) {n : Nat}
    (hn : n ≤ ctx.reqCount) {devs : Nat → Device} (hdevs : ∀ i, (devs i).Faultless)
    (readErrors : Nat → DiskIoError) :
    ((List.range n).map fun i => (ctx.reqs i).servedOn readErrors (devs i)).map AioServed.event =
      (ctx.pending.take n).map AioRequest.event := by
  rw [NsAioContext.pending, ← List.map_take, List.take_range, min_eq_left hn, List.map_map,
    List.map_map]
  apply List.map_congr_left
  intro i hi
  have hreq := hctx.reqs i ((List.mem_range.mp hi).trans_le hn)
  rw [Function.comp, Function.comp, NsAioReq.servedOn_faultless (hdevs i) hreq,
    AioRequest.event_served]

/-- Whatever the order of the sectors, the answer and the queues are those of the queues. -/
lemma AioState.Reliable.getevents (hs : s.Reliable) (handle maxevents : BitVec 32) :
    (s.getevents handle maxevents events).1.view.queues =
        (s.view.getevents handle maxevents events).1.queues ∧
      (s.getevents handle maxevents events).2 = (s.view.getevents handle maxevents events).2 ∧
      (s.getevents handle maxevents events).1.dev.Faultless := by
  cases hslot : aioCtxFromHandle s handle with
  | none =>
    have hfind : s.view.find handle = none := by rw [s.find_view, hslot, Option.map_none]
    simp only [AioState.getevents, AioQueues.getevents, hslot, hfind]
    exact ⟨trivial, trivial, hs.dev⟩
  | some slot =>
    obtain ⟨ctx', stats, l, hdrops, hrun⟩ := aioProcessEvents_any
      (cappedEvents (s.aioContexts slot) maxevents) (hs.sound slot).count_le
      fun i hi => ((hs.sound slot).reqs i hi).opcode
    have hview := AioState.view_getevents_of_drops events hslot rfl hdrops hrun
      ((hs.sound slot).events_servedOn (min_le_left ..)
        (fun i => deviceAfter_faultless hs.dev _ _) s.readErrors)
    rw [AioState.queues_getevents events hslot rfl]
    split_ifs at hview ⊢
    · have hdev : (s.getevents handle maxevents events).1.dev = s.dev :=
        congrArg (fun r : AioQueues × AioAnswer => r.1.dev) hview
      refine ⟨congrArg (fun r : AioQueues × AioAnswer => r.1.queues) hview,
        congrArg Prod.snd hview, ?_⟩
      rw [hdev]
      exact hs.dev
    · have hdev : (s.getevents handle maxevents events).1.dev =
          deviceAfter s.dev (s.aioContexts slot).reqs l :=
        congrArg (fun r : AioQueues × AioAnswer => r.1.dev) hview
      have hqueues := congrArg (fun r : AioQueues × AioAnswer => r.1.queues) hview
      have hanswer := congrArg Prod.snd hview
      refine ⟨hqueues, hanswer, ?_⟩
      rw [hdev]
      exact deviceAfter_faultless hs.dev _ _

lemma AioState.Reliable.view_getevents (hs : s.Reliable)
    (hop : s.SectorsInOrder (.getevents handle maxevents events)) :
    ((s.getevents handle maxevents events).1.view, (s.getevents handle maxevents events).2) =
      s.view.getevents handle maxevents events := by
  cases hslot : aioCtxFromHandle s handle with
  | none =>
    have hfind : s.view.find handle = none := by rw [s.find_view, hslot, Option.map_none]
    simp only [AioState.getevents, AioQueues.getevents, hslot, hfind]
  | some slot =>
    obtain ⟨ctx', stats, hdrops, hrun⟩ := aioProcessEvents_spec (hs.sound slot).count_le
      (fun i hi => ((hs.sound slot).reqs i hi).opcode) (hop slot hslot)
    have hle : aioToProcess (s.aioContexts slot) (AioState.cappedEvents (s.aioContexts slot)
        maxevents) ≤ (s.aioContexts slot).reqCount := min_le_left ..
    obtain ⟨hafter, hserved⟩ := deviceAfter_range hs.dev (hs.sound slot) s.readErrors hle
    rw [hserved, hafter] at hrun
    rw [AioState.view_getevents_of_drops events hslot rfl hdrops hrun
      (AioRequest.events_servedAll ..), AioState.queues_getevents events hslot rfl]

end Getevents

lemma NsAioContext.view_of_unused {ctx : NsAioContext} (h : ¬ ctx.used = true) :
    ctx.view = none := if_neg h

lemma AioState.view_close (s : AioState) :
    (s.closeAllForTask s.osCurrentTask).view = s.view.exit := by
  have hqueues : ∀ slot, NsAioContext.view (if (s.aioContexts slot).used = true ∧
        (s.aioContexts slot).ownerTask = (s.osCurrentTask : Nat) then
      { s.aioContexts slot with used := false, ownerTask := -1, maxevents := 0, reqCount := 0 }
      else s.aioContexts slot) =
      (s.aioContexts slot).view.filter fun q => q.owner ≠ ((s.osCurrentTask : Nat) : Int) := by
    intro slot
    by_cases hused : (s.aioContexts slot).used = true
    · rw [NsAioContext.view_of_used hused]
      by_cases howner : (s.aioContexts slot).ownerTask = (s.osCurrentTask : Nat)
      · rw [if_pos ⟨hused, howner⟩, Option.filter_some, if_neg (by simp [howner])]
        rfl
      · rw [if_neg (by tauto), NsAioContext.view_of_used hused, Option.filter_some,
          if_pos (by simp [howner])]
    · rw [if_neg (by tauto), NsAioContext.view_of_unused hused]
      rfl
  exact congrArg (fun queues => ({ s.view with queues := queues } : AioQueues)) (funext hqueues)

/-- What does not depend on the order in which the sectors are served. -/
lemma AioState.Reliable.queues_step (hs : s.Reliable) (op : AioOp) :
    (s.step op).1.view.queues = (s.view.step op).1.queues ∧ (s.step op).2 = (s.view.step op).2 := by
  cases op with
  | setup maxevents ctxOut =>
    obtain ⟨hstate, hanswer⟩ := Prod.ext_iff.mp (s.view_setup maxevents ctxOut)
    exact ⟨congrArg AioQueues.queues hstate, hanswer⟩
  | submit handle nr iocb =>
    obtain ⟨hstate, hanswer⟩ := Prod.ext_iff.mp (s.view_submit handle nr iocb)
    exact ⟨congrArg AioQueues.queues hstate, hanswer⟩
  | getevents handle maxevents events =>
    obtain ⟨hqueues, hanswer, -⟩ := hs.getevents events handle maxevents
    exact ⟨hqueues, hanswer⟩
  | exit => exact ⟨congrArg AioQueues.queues s.view_close, rfl⟩
  | munmap | brk | resume | disk => exact ⟨rfl, rfl⟩

lemma AioState.Reliable.view_step (hs : s.Reliable) {op : AioOp} (hop : s.SectorsInOrder op) :
    ((s.step op).1.view, (s.step op).2) = s.view.step op := by
  cases op with
  | setup maxevents ctxOut => exact s.view_setup maxevents ctxOut
  | submit handle nr iocb => exact s.view_submit handle nr iocb
  | getevents handle maxevents events => exact hs.view_getevents events hop
  | exit => exact congrArg (·, AioAnswer.code okWord) s.view_close
  | munmap | brk | resume | disk => rfl

lemma AioState.Reliable.step (hs : s.Reliable) {op : AioOp} (hop : op.Healthy) :
    (s.step op).1.Reliable := by
  refine ⟨hs.sound.step op, ?_⟩
  cases op with
  | setup maxevents ctxOut => exact (s.dev_setup maxevents ctxOut).symm ▸ hs.dev
  | submit handle nr iocb => exact (s.dev_submit handle nr iocb).symm ▸ hs.dev
  | getevents handle maxevents events => exact (hs.getevents events handle maxevents).2.2
  | exit | munmap | brk | resume => exact hs.dev
  | disk dev readErrors => exact hop

/-- The calls are those of the queues. -/
theorem refines_queues : Machine.Refines (fun s op => op.Healthy ∧ s.SectorsInOrder op)
    AioState.step AioState.Reliable AioState.view AioQueues.step where
  inv _ _ hs hop := hs.step hop.1
  state _ _ hs hop := congrArg Prod.fst (hs.view_step hop.2)
  output _ _ hs hop := congrArg Prod.snd (hs.view_step hop.2)

end Refinement

end NeuroSpark
