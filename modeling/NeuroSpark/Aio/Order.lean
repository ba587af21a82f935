import NeuroSpark.Aio.Queue

/-!
# The order of events

A queue whose owner lives gets the control blocks that are accepted at its end, and gives the events
of the requests at its front. So over any run what is handed in is, in this order, what was finished
and what is still waiting, and the events are those of what was finished.
-/

namespace NeuroSpark

/-- The context a call is about. -/
def AioOp.slot : AioOp → Option (Fin 4)
  | submit handle _ _ => aioCtxHandleToSlot handle
  | getevents handle _ _ => aioCtxHandleToSlot handle
  | _ => none

/-- What a call hands in to a context: each write with the bytes that are in its buffer now. -/
def AioOp.accepted (op : AioOp) (slot : Fin 4) (memory : TaskMemory) (answer : AioAnswer) :
    List AioRequest :=
  if op.slot = some slot then answer.accepted.map (AioRequest.ofCb memory) else []

/-- The events a call gets from a context. -/
def AioOp.returned (op : AioOp) (slot : Fin 4) (answer : AioAnswer) : List NsIoEvent :=
  if op.slot = some slot then answer.events else []

/-! ### One step -/

/-- A queue passes on what is at its front. -/
structure AioQueue.Passes (q : AioQueue) (accepted : List AioRequest) (returned : List NsIoEvent)
    (q' : AioQueue) : Prop where
  owner : q'.owner = q.owner
  conserved : q.pending ++ accepted = q.pending.take returned.length ++ q'.pending
  events : returned = (q.pending.take returned.length).map AioRequest.event

lemma AioQueue.Passes.refl (q : AioQueue) : q.Passes [] [] q := ⟨rfl, List.append_nil _, rfl⟩

section Step

variable {a : AioQueues} {slot : Fin 4} {q : AioQueue} {op : AioOp}

lemma AioQueues.find_eq_some {handle : BitVec 32} {i : Fin 4} {p : AioQueue}
    (h : a.find handle = some (i, p)) :
    aioCtxHandleToSlot handle = some i ∧ a.queues i = some p := by
  unfold AioQueues.find at h
  cases hslot : aioCtxHandleToSlot handle with
  | none => simp [hslot] at h
  | some j =>
    cases hq : a.queues j with
    | none => simp [hslot, hq] at h
    | some p' =>
      simp only [hslot, hq, Option.bind_eq_bind, Option.bind_some] at h
      split_ifs at h
      cases h
      exact ⟨rfl, hq⟩

lemma AioQueues.queues_set_self (i : Fin 4) (p : AioQueue) : (a.set i p).queues i = some p :=
  Function.update_self ..

lemma AioQueues.queues_set_of_ne {i : Fin 4} (h : slot ≠ i) (p : AioQueue) :
    (a.set i p).queues slot = a.queues slot := Function.update_of_ne h _ _

lemma AioQueues.passes_of_nothing {r : AioQueues × AioAnswer} (haccepted : r.2.accepted = [])
    (hevents : r.2.events = []) (hqueue : r.1.queues slot = some q) :
    ∃ q', r.1.queues slot = some q' ∧
      q.Passes (op.accepted slot a.memory r.2) (op.returned slot r.2) q' := by
  refine ⟨q, hqueue, ?_⟩
  unfold AioOp.accepted AioOp.returned
  rw [haccepted, hevents, List.map_nil, ite_self, ite_self]
  exact AioQueue.Passes.refl q

lemma AioQueues.passes_of_other {r : AioQueues × AioAnswer} (hop : op.slot ≠ some slot)
    (hqueue : r.1.queues slot = some q) :
    ∃ q', r.1.queues slot = some q' ∧
      q.Passes (op.accepted slot a.memory r.2) (op.returned slot r.2) q' := by
  refine ⟨q, hqueue, ?_⟩
  rw [AioOp.accepted, AioOp.returned, if_neg hop, if_neg hop]
  exact AioQueue.Passes.refl q

section

variable (hq : a.queues slot = some q)
include hq

lemma AioQueues.setup_passes (maxevents ctxOut : BitVec 32) :
    (a.setup maxevents ctxOut).1.queues slot = some q := by
  unfold AioQueues.setup
  split_ifs
  · exact hq
  · cases hfind : (List.finRange 4).find? fun i => (a.queues i).isNone with
    | none => exact hq
    | some i =>
      have hne : slot ≠ i := by
        rintro rfl
        have hnone := List.find?_some hfind
        simp [hq] at hnone
      exact (a.queues_set_of_ne hne _).trans hq

lemma AioQueues.submit_passes (handle nr iocb : BitVec 32) :
    ∃ q', (a.submit handle nr iocb).1.queues slot = some q' ∧
      q.Passes ((AioOp.submit handle nr iocb).accepted slot a.memory (a.submit handle nr iocb).2)
        ((AioOp.submit handle nr iocb).returned slot (a.submit handle nr iocb).2) q' := by
  unfold AioQueues.submit
  cases hfind : a.find handle with
  | none => exact AioQueues.passes_of_nothing rfl rfl hq
  | some r =>
    obtain ⟨i, p⟩ := r
    obtain ⟨hslot, hp⟩ := AioQueues.find_eq_some hfind
    dsimp only
    by_cases hrefused : (nr = 0 ∨ aioMaxReq < nr) ∨ a.memory.validateUserPtr iocb (nr * 20) = false
    · rw [if_pos hrefused]
      exact AioQueues.passes_of_nothing rfl rfl hq
    · rw [if_neg hrefused]
      by_cases hi : slot = i
      · subst hi
        obtain rfl : q = p := Option.some_injective _ (hq.symm.trans hp)
        refine ⟨_, AioQueues.queues_set_self .., rfl, ?_, ?_⟩
        · simp [AioOp.accepted, AioOp.returned, AioOp.slot, hslot]
        · simp [AioOp.returned]
      · refine AioQueues.passes_of_other ?_ ((a.queues_set_of_ne hi _).trans hq)
        intro hop
        exact hi (Option.some_injective _ (hop.symm.trans hslot))

lemma AioQueues.getevents_passes (handle maxevents events : BitVec 32) :
    ∃ q', (a.getevents handle maxevents events).1.queues slot = some q' ∧
      q.Passes ((AioOp.getevents handle maxevents events).accepted slot a.memory
          (a.getevents handle maxevents events).2)
        ((AioOp.getevents handle maxevents events).returned slot
          (a.getevents handle maxevents events).2) q' := by
  unfold AioQueues.getevents
  cases hfind : a.find handle with
  | none => exact AioQueues.passes_of_nothing rfl rfl hq
  | some r =>
    obtain ⟨i, p⟩ := r
    obtain ⟨hslot, hp⟩ := AioQueues.find_eq_some hfind
    dsimp only
    by_cases hrefused : maxevents = 0 ∨ a.memory.validateUserPtr events (maxevents * 8) = false
    · rw [if_pos hrefused]
      exact AioQueues.passes_of_nothing rfl rfl hq
    · rw [if_neg hrefused]
      by_cases hi : slot = i
      · subst hi
        obtain rfl : q = p := Option.some_injective _ (hq.symm.trans hp)
        set n := min q.pending.length (min maxevents.toNat q.maxevents.toNat) with hn
        have hreturned : (AioOp.getevents handle maxevents events).returned slot
            ⟨BitVec.ofNat 32 n, [], (q.pending.take n).map AioRequest.event⟩ =
              (q.pending.take n).map AioRequest.event := if_pos hslot
        have hlength : ((q.pending.take n).map AioRequest.event).length = n := by
          rw [List.length_map, List.length_take]
          exact min_eq_left (min_le_left ..)
        refine ⟨_, AioQueues.queues_set_self .., rfl, ?_, ?_⟩
        · rw [hreturned, hlength, List.take_append_drop]
          simp [AioOp.accepted]
        · rw [hreturned, hlength]
      · refine AioQueues.passes_of_other ?_ ((a.queues_set_of_ne hi _).trans hq)
        intro hop
        exact hi (Option.some_injective _ (hop.symm.trans hslot))

lemma AioQueues.step_passes (hexit : op = .exit → ((a.current : Nat) : Int) ≠ q.owner) :
    ∃ q', (a.step op).1.queues slot = some q' ∧
      q.Passes (op.accepted slot a.memory (a.step op).2) (op.returned slot (a.step op).2) q' := by
  cases op with
  | setup maxevents ctxOut =>
    exact AioQueues.passes_of_other (Option.some_ne_none slot).symm
      (AioQueues.setup_passes hq maxevents ctxOut)
  | submit handle nr iocb => exact AioQueues.submit_passes hq handle nr iocb
  | getevents handle maxevents events => exact AioQueues.getevents_passes hq handle maxevents events
  | exit =>
    have howner := hexit rfl
    refine AioQueues.passes_of_nothing rfl rfl ?_
    change (a.queues slot).filter _ = some q
    rw [hq, Option.filter_some, if_pos (by simp [howner.symm])]
  | munmap | brk | resume | disk => exact AioQueues.passes_of_nothing rfl rfl hq

end

end Step

/-! ### Runs -/

namespace AioState

def accepted (slot : Fin 4) (s : AioState) (op : AioOp) : List AioRequest :=
  op.accepted slot s.memory (s.step op).2

def returned (slot : Fin 4) (s : AioState) (op : AioOp) : List NsIoEvent :=
  op.returned slot (s.step op).2

/-- The requests whose events a step returns. -/
def finished (slot : Fin 4) (s : AioState) (op : AioOp) : List AioRequest :=
  (s.aioContexts slot).pending.take (s.returned slot op).length

/-- The context belongs to the task. -/
def OwnedBy (slot : Fin 4) (owner : Fin 8) (s : AioState) : Prop :=
  (s.aioContexts slot).OwnedBy owner

/-- The owner does not end. -/
def Lives (owner : Fin 8) (s : AioState) (op : AioOp) : Prop := op = .exit → s.osCurrentTask ≠ owner

variable {s : AioState} {slot : Fin 4} {owner : Fin 8}

lemma queues_view (h : OwnedBy slot owner s) : s.view.queues slot =
    some ⟨(owner : Nat), (s.aioContexts slot).maxevents, (s.aioContexts slot).pending⟩ := by
  rw [← h.2]
  exact NsAioContext.view_of_used h.1

lemma of_queues_view {q : AioQueue} (h : s.view.queues slot = some q)
    (howner : q.owner = (owner : Nat)) :
    OwnedBy slot owner s ∧ (s.aioContexts slot).pending = q.pending := by
  have hview : (s.aioContexts slot).view = some q := h
  by_cases hused : (s.aioContexts slot).used = true
  · rw [NsAioContext.view_of_used hused] at hview
    cases hview
    exact ⟨⟨hused, howner⟩, rfl⟩
  · rw [NsAioContext.view_of_unused hused] at hview
    cases hview

lemma Reliable.passes (hs : s.Reliable) (howned : OwnedBy slot owner s) {op : AioOp}
    (hlives : Lives owner s op) : OwnedBy slot owner (s.step op).1 ∧
      (s.aioContexts slot).pending ++ s.accepted slot op =
        s.finished slot op ++ ((s.step op).1.aioContexts slot).pending ∧
      s.returned slot op = (s.finished slot op).map AioRequest.event := by
  have hother : op = .exit → ((s.view.current : Nat) : Int) ≠ (owner : Nat) := by
    intro hop heq
    exact hlives hop (Fin.ext (by exact_mod_cast heq))
  obtain ⟨q', hq', hpasses⟩ := AioQueues.step_passes (queues_view howned) hother
  obtain ⟨hqueues, hanswer⟩ := hs.queues_step op
  rw [← hqueues] at hq'
  rw [← hanswer] at hpasses
  obtain ⟨howned', hpending⟩ := of_queues_view hq' hpasses.owner
  rw [hpending]
  exact ⟨howned', hpasses.conserved, hpasses.events⟩

lemma Reliable.conserved (hs : s.Reliable) (howned : OwnedBy slot owner s) {ops : List AioOp}
    (hr : Machine.Runs (fun s op => op.Healthy ∧ Lives owner s op) AioState.step s ops) :
    (s.aioContexts slot).pending ++ Machine.log (accepted slot) AioState.step s ops =
        Machine.log (finished slot) AioState.step s ops ++
          ((Machine.run AioState.step s ops).aioContexts slot).pending ∧
      Machine.log (returned slot) AioState.step s ops =
        (Machine.log (finished slot) AioState.step s ops).map AioRequest.event := by
  have hinv : ∀ (s : AioState) (op : AioOp), s.Reliable ∧ OwnedBy slot owner s →
      op.Healthy ∧ Lives owner s op →
        (s.step op).1.Reliable ∧ OwnedBy slot owner (s.step op).1 :=
    fun s op hs hop => ⟨hs.1.step hop.1, (hs.1.passes hs.2 hop.2).1⟩
  constructor
  · exact Machine.log_conserved hinv (fun s op hs hop => (hs.1.passes hs.2 hop.2).2.1)
      ⟨hs, howned⟩ hr
  · exact Machine.log_map hinv (fun s op hs hop => (hs.1.passes hs.2 hop.2).2.2)
      ⟨hs, howned⟩ hr

/-- Asynchronous requests on a disk that does not fail, over any run of calls: no context has more
than 64 requests; and as long as the owner of a context lives, the requests accepted are finished in
their order, each with one event that has its `user_data`. If the requests for each sector are
finished in the order of their LBAs, memory, disk and answers are those of queues whose requests are
executed one after the other when their events are asked for. -/
theorem requests_inOrder (hs : s.Reliable) {ops : List AioOp}
    (hr : Machine.Runs (fun _ op => op.Healthy) AioState.step s ops) :
    (∀ slot, ((Machine.run AioState.step s ops).aioContexts slot).reqCount ≤ 64) ∧
      (∀ slot owner, OwnedBy slot owner s → Machine.Runs (Lives owner) AioState.step s ops →
        ∃ done, (s.aioContexts slot).pending ++ Machine.log (accepted slot) AioState.step s ops =
            done ++ ((Machine.run AioState.step s ops).aioContexts slot).pending ∧
          Machine.log (returned slot) AioState.step s ops = done.map AioRequest.event) ∧
      (Machine.Runs AioState.SectorsInOrder AioState.step s ops →
        (Machine.run AioState.step s ops).view = Machine.run AioQueues.step s.view ops ∧
          Machine.outputs AioState.step s ops = Machine.outputs AioQueues.step s.view ops) := by
  refine ⟨?_, ?_, ?_⟩
  · intro slot
    have hsound := Machine.run_invariant' (I := AioState.Sound) (fun _ op hs => hs.step op) hs.sound ops
    exact (hsound slot).count_le
  · intro slot owner howned hlives
    exact ⟨_, hs.conserved howned (hr.and hlives)⟩
  · intro hsectors
    exact ⟨refines_queues.run_view hs (hr.and hsectors),
      refines_queues.outputs_eq hs (hr.and hsectors)⟩

end AioState

/-- A task with two pages at 0x40000000 and two at 0x50000000. At the first address are two control
blocks, a write of LBA 5 from 0x40000800 and a read of it into 0x50000000; at 0x40000028 are two
writes, one of LBA 0x10000005 from 0x40000000 and one of LBA 5 from 0x40000800. -/
def sampleMemory : TaskMemory where
  paging :=
    { memoryBitmap := fun _ => 0xFF
      memory := fun page i =>
        if page = 512 then if i = 256 then 0x201007 else if i = 320 then 0x202007 else 0
        else if page = 513 then if i = 0 then 0x203007 else if i = 1 then 0x204007 else 0
        else if page = 514 then if i = 0 then 0x205007 else if i = 1 then 0x206007 else 0
        else if page = 515 then
          ([1, 5, 0x40000800, 512, 7, 0, 5, 0x50000000, 512, 8, 1, 0x10000005, 0x40000000, 512, 9,
            1, 5, 0x40000800, 512, 10] : List (BitVec 32)).getD i 0xAB
        else 0 }
  pageDir := 0x200000
  taskBrkBase := 0
  taskBrkCurrent := 0
  taskMmapNext := 0

def freeContext : NsAioContext where
  used := false
  ownerTask := -1
  maxevents := 0
  reqCount := 0
  reqs _ := ⟨false, 0, 0, 0, 0, 0, 0, Bytes.zero⟩

/-- Task 1 has the first context, for up to four events in a call. -/
def sampleAio : AioState where
  osCurrentTask := 1
  memory := sampleMemory
  aioContexts slot := if slot = 0 then freeContext.given 1 4 else freeContext
  dev := Device.zeros .ata
  readErrors _ := .timeout
  diskSchedStats := ⟨0, 0, 0, 0, 0⟩

def sampleSubmit : AioOp := .submit 1 2 0x40000000

lemma sampleAio_reliable : sampleAio.Reliable := by
  refine ⟨fun slot => NsAioContext.sound_of_empty ?_, Device.zeros_faultless _⟩
  revert slot
  decide

/-- Both control blocks are accepted, and their events come in this order. -/
example : Machine.outputs AioState.step sampleAio [sampleSubmit, .getevents 1 4 0x40000400] =
    [⟨2, [⟨1, 5, 0x40000800, 512, 7⟩, ⟨0, 5, 0x50000000, 512, 8⟩], []⟩,
      ⟨2, [], [⟨7, 0⟩, ⟨8, 0⟩]⟩] := by
  decide

/-- A submission and a call for its events. -/
theorem AioState.requests_inOrder_sample :
    (Machine.run AioState.step sampleAio [sampleSubmit, .getevents 1 4 0x40000400]).view =
        Machine.run AioQueues.step sampleAio.view [sampleSubmit, .getevents 1 4 0x40000400] ∧
      Machine.outputs AioState.step sampleAio [sampleSubmit, .getevents 1 4 0x40000400] =
        Machine.outputs AioQueues.step sampleAio.view [sampleSubmit, .getevents 1 4 0x40000400] ∧
      ∃ done, (sampleAio.aioContexts 0).pending ++ Machine.log (AioState.accepted 0) AioState.step
            sampleAio [sampleSubmit, .getevents 1 4 0x40000400] =
          done ++ ((Machine.run AioState.step sampleAio
            [sampleSubmit, .getevents 1 4 0x40000400]).aioContexts 0).pending ∧
        Machine.log (AioState.returned 0) AioState.step sampleAio
          [sampleSubmit, .getevents 1 4 0x40000400] = done.map AioRequest.event := by
  have hr : Machine.Runs (fun _ op => op.Healthy) AioState.step sampleAio
      [sampleSubmit, .getevents 1 4 0x40000400] := ⟨trivial, trivial, trivial⟩
  have hsectors : Machine.Runs AioState.SectorsInOrder AioState.step sampleAio
      [sampleSubmit, .getevents 1 4 0x40000400] := by decide
  obtain ⟨-, hqueue, hview⟩ := AioState.requests_inOrder sampleAio_reliable hr
  exact ⟨(hview hsectors).1, (hview hsectors).2, hqueue 0 1 ⟨rfl, rfl⟩ ⟨nofun, nofun, trivial⟩⟩

/-- Two writes to one sector of an ATA disk, the first by an LBA of more than 28 bits: the disk keeps
the first, where execution in the order of submission leaves the second. -/
theorem AioState.requests_outOfOrder :
    sampleAio.Reliable ∧ Machine.Runs (fun _ op => op.Healthy) AioState.step sampleAio
        [.submit 1 2 0x40000028, .getevents 1 4 0x40000400] ∧
      ((Machine.run AioState.step sampleAio
        [.submit 1 2 0x40000028, .getevents 1 4 0x40000400]).dev.contents 5).get 0 = 1 ∧
      ((Machine.run AioQueues.step sampleAio.view
        [.submit 1 2 0x40000028, .getevents 1 4 0x40000400]).dev.contents 5).get 0 = 0xAB := by
  refine ⟨sampleAio_reliable, ⟨trivial, trivial, trivial⟩, ?_, ?_⟩
  · decide
  · decide

end NeuroSpark
