import NeuroSpark.Aio.Requests

/-!
# What a completion does

The batch gets the sectors of a context as memory, sorts the requests and works on them one after
the other: a request meets the device as those before it have left it (`deviceAfter`), and what is
stored for it, `NsAioReq.servedOn`, depends on the others in no other way. By
`diskProcessBatch_inOrder` the order may be taken to be that of the requests.
-/

namespace NeuroSpark

def NsAioReq.onDevice (req : NsAioReq) (dev : Device) : Device :=
  if req.opcode = aioOpWrite then diskWriteSectorUncached dev req.lba.toNat req.sector else dev

/-- The device after some of the requests. -/
def deviceAfter (dev : Device) (reqs : Nat → NsAioReq) (l : List Nat) : Device :=
  l.foldl (fun dev i => (reqs i).onDevice dev) dev

lemma deviceAfter_append (dev : Device) (reqs : Nat → NsAioReq) (l : List Nat) (k : Nat) :
    deviceAfter dev reqs (l ++ [k]) = (reqs k).onDevice (deviceAfter dev reqs l) := by
  rw [deviceAfter, List.foldl_append]
  rfl

/-- No request changes what fails, or the controller. -/
lemma deviceAfter_faults (dev : Device) (reqs : Nat → NsAioReq) (l : List Nat) :
    (deviceAfter dev reqs l).backend = dev.backend ∧
      (deviceAfter dev reqs l).readFault = dev.readFault := by
  induction l using List.reverseRecOn with
  | nil => exact ⟨rfl, rfl⟩
  | append_singleton l k ih =>
    rw [deviceAfter_append, ← ih.1, ← ih.2, NsAioReq.onDevice, diskWriteSectorUncached]
    split_ifs <;> exact ⟨rfl, rfl⟩

/-- What is stored for a request that meets a device. -/
def NsAioReq.servedOn (req : NsAioReq) (readErrors : Nat → DiskIoError) (dev : Device) :
    AioServed :=
  if req.opcode = aioOpWrite then ⟨none, req.userData, 0⟩
  else
    match diskReadSectorUncached dev req.lba.toNat with
    | none => ⟨none, req.userData, (readErrors req.lba.toNat).code⟩
    | some data => ⟨some ⟨req.userBuf, (sectorBytes data).take req.nbytes.toNat⟩, req.userData, 0⟩

lemma loadSector_storeSector_same (mem : Memory) (addr : Nat) (data : Sector) :
    loadSector (storeSector mem addr data) addr = data := by
  apply Bytes.ext_get
  intro k hk
  rw [loadSector, Bytes.get_ofFun _ hk, storeSector, if_pos ⟨by omega, by omega⟩,
    Nat.add_sub_cancel_left]

lemma aioSectorAddr_ne_zero (i : Nat) : aioSectorAddr i ≠ 0 := by
  unfold aioSectorAddr
  omega

lemma aioSectorAddr_disjoint {i j : Nat} (h : i ≠ j) :
    BufferDisjoint (aioSectorAddr i) (aioSectorAddr j) := by
  unfold BufferDisjoint aioSectorAddr
  omega

lemma loadSector_aioSectors (reqs : Nat → NsAioReq) (i : Nat) :
    loadSector (aioSectors reqs) (aioSectorAddr i) = (reqs i).sector := by
  apply Bytes.ext_get
  intro k hk
  have hoff : aioSectorAddr i + k - 44 = 540 * i + k := by
    unfold aioSectorAddr
    omega
  have hdiv : (540 * i + k) / 540 = i := by omega
  have hmod : (540 * i + k) % 540 = k := by omega
  rw [loadSector, Bytes.get_ofFun _ hk, aioSectors, hoff, hdiv, hmod]

lemma loadSector_serveRequest (dev : Device) (mem : Memory) {r : DiskBatchRequest} {addr : Nat}
    (h : BufferDisjoint r.buffer addr) :
    loadSector (serveRequest dev mem r).2.1 addr = loadSector mem addr := by
  cases hw : r.write with
  | true => rw [serveRequest_write hw]
  | false =>
    cases hr : diskReadSectorUncached dev r.lba with
    | none => rw [serveRequest_errRead hw hr]
    | some data => rw [serveRequest_read hw hr, loadSector_storeSector h]

section Batch

variable {s : AioState} {ctx : NsAioContext} {b : BatchState} {l : List Nat} {k : Nat}

/-- The batch `b` has served the requests of a list, in this order. -/
structure BatchServed (s : AioState) (ctx : NsAioContext) (l : List Nat) (b : BatchState) :
    Prop where
  dev : b.dev = deviceAfter s.dev ctx.reqs l
  asks : b.Asks (aioBatch s ctx).reqs
  kept : ∀ i ∉ l, loadSector b.mem (aioSectorAddr i) = (ctx.reqs i).sector
  served : ∀ p i q, l = p ++ i :: q → servedReq (finishedReq s.readErrors b i (ctx.reqs i)) =
    (ctx.reqs i).servedOn s.readErrors (deviceAfter s.dev ctx.reqs p)

lemma batchServed_nil (s : AioState) (ctx : NsAioContext) :
    BatchServed s ctx [] (aioBatch s ctx) where
  dev := rfl
  asks _ := ⟨rfl, rfl, rfl⟩
  kept i _ := loadSector_aioSectors ctx.reqs i
  served p i q h := by simp at h

lemma finishedReq_congr {readErrors : Nat → DiskIoError} {b b' : BatchState} {i : Nat}
    (hresult : (b'.reqs i).result = (b.reqs i).result)
    (hmem : loadSector b'.mem (aioSectorAddr i) = loadSector b.mem (aioSectorAddr i))
    (req : NsAioReq) : finishedReq readErrors b' i req = finishedReq readErrors b i req := by
  rw [finishedReq, finishedReq, hresult, hmem]

lemma BatchServed.serve (hb : BatchServed s ctx l b) (hk : k ∉ l)
    (hop : (ctx.reqs k).opcode = aioOpRead ∨ (ctx.reqs k).opcode = aioOpWrite) :
    (executeRequest b k).dev = (ctx.reqs k).onDevice b.dev ∧
      servedReq (finishedReq s.readErrors (executeRequest b k) k (ctx.reqs k)) =
        (ctx.reqs k).servedOn s.readErrors b.dev := by
  obtain ⟨hlba, hbuffer, hwrite⟩ := hb.asks k
  have hlba : (b.reqs k).lba = (ctx.reqs k).lba.toNat := hlba
  have hbuffer : (b.reqs k).buffer = aioSectorAddr k := hbuffer
  have hwrite : (b.reqs k).write = decide ((ctx.reqs k).opcode = aioOpWrite) := hwrite
  rcases hop with hop | hop
  · have hne : (ctx.reqs k).opcode ≠ aioOpWrite := hop ▸ aioOpRead_ne_aioOpWrite
    have hw : (b.reqs k).write = false := by simp [hwrite, hne]
    cases hr : diskReadSectorUncached b.dev (ctx.reqs k).lba.toNat with
    | none =>
      have hserve : serveRequest b.dev b.mem (b.reqs k) = (b.dev, b.mem, .errRead) :=
        serveRequest_errRead hw (hlba ▸ hr)
      constructor
      · simp [executeRequest, hserve, NsAioReq.onDevice, hne]
      · simp [executeRequest, hserve, servedReq, finishedReq, NsAioReq.servedOn, hne, hr,
          DiskIoResult.code]
    | some data =>
      have hserve : serveRequest b.dev b.mem (b.reqs k) =
          (b.dev, storeSector b.mem (aioSectorAddr k) data, .ok) := by
        rw [← hbuffer]
        exact serveRequest_read hw (hlba ▸ hr)
      constructor
      · simp [executeRequest, hserve, NsAioReq.onDevice, hne]
      · simp [executeRequest, hserve, servedReq, finishedReq, NsAioReq.servedOn, hr, hop,
          DiskIoResult.code, loadSector_storeSector_same]
  · have hw : (b.reqs k).write = true := by simp [hwrite, hop]
    have hserve : serveRequest b.dev b.mem (b.reqs k) =
        (diskWriteSectorUncached b.dev (ctx.reqs k).lba.toNat (ctx.reqs k).sector, b.mem, .ok) := by
      rw [serveRequest_write hw, hlba, hbuffer, hb.kept k hk]
    constructor
    · simp [executeRequest, hserve, NsAioReq.onDevice, hop]
    · simp [executeRequest, hserve, servedReq, finishedReq, NsAioReq.servedOn, hop,
        DiskIoResult.code]

lemma BatchServed.execute (hb : BatchServed s ctx l b) (hk : k ∉ l)
    (hop : (ctx.reqs k).opcode = aioOpRead ∨ (ctx.reqs k).opcode = aioOpWrite) :
    BatchServed s ctx (l ++ [k]) (executeRequest b k) := by
  obtain ⟨hdev, hserved⟩ := hb.serve hk hop
  have hother : ∀ i, i ≠ k → loadSector (executeRequest b k).mem (aioSectorAddr i) =
      loadSector b.mem (aioSectorAddr i) := by
    intro i hi
    apply loadSector_serveRequest
    rw [(hb.asks k).2.1]
    exact aioSectorAddr_disjoint hi.symm
  constructor
  · rw [hdev, hb.dev, deviceAfter_append]
  · exact executeRequest_asks hb.asks k
  · intro i hi
    rw [List.mem_append, List.mem_singleton, not_or] at hi
    rw [hother i hi.2]
    exact hb.kept i hi.1
  · intro p i q hl
    obtain rfl | ⟨q, x, rfl⟩ := q.eq_nil_or_concat
    · obtain ⟨rfl, hki⟩ := List.append_inj' hl rfl
      obtain rfl : k = i := by simpa using hki
      rw [hserved, hb.dev]
    · rw [List.concat_eq_append, ← List.cons_append, ← List.append_assoc] at hl
      obtain ⟨rfl, -⟩ := List.append_inj' hl rfl
      have hne : i ≠ k := by
        rintro rfl
        exact hk (List.mem_append_right p List.mem_cons_self)
      rw [← hb.served p i q rfl]
      have hresult : ((executeRequest b k).reqs i).result = (b.reqs i).result := by
        simp [executeRequest, hne]
      rw [finishedReq_congr hresult (hother i hne)]

lemma batchServed_foldl (s : AioState) (ctx : NsAioContext) (hnodup : l.Nodup)
    (hop : ∀ i ∈ l, (ctx.reqs i).opcode = aioOpRead ∨ (ctx.reqs i).opcode = aioOpWrite) :
    BatchServed s ctx l (l.foldl executeRequest (aioBatch s ctx)) := by
  induction l using List.reverseRecOn with
  | nil => exact batchServed_nil s ctx
  | append_singleton l k ih =>
    obtain ⟨hl, -, hk⟩ := List.nodup_append.mp hnodup
    rw [List.foldl_append]
    refine (ih hl fun i hi => hop i (List.mem_append_left _ hi)).execute (fun hkl => ?_)
      (hop k (List.mem_append_right l (List.mem_singleton_self k)))
    exact hk k hkl k (List.mem_singleton_self k) rfl

end Batch

lemma shiftReqs_apply (reqs : Nat → NsAioReq) {n count i : Nat} (hi : i + n < count) :
    shiftReqs reqs n count i = reqs (i + n) := by
  have hrounds : ∀ k, (∀ j < k, (List.range' n k).foldl
        (fun reqs i => Function.update reqs (i - n) (reqs i)) reqs j = reqs (j + n)) ∧
      ∀ j, k ≤ j → (List.range' n k).foldl
        (fun reqs i => Function.update reqs (i - n) (reqs i)) reqs j = reqs j := by
    intro k
    induction k with
    | zero => exact ⟨fun j hj => absurd hj (Nat.not_lt_zero j), fun j _ => rfl⟩
    | succ k ih =>
      obtain ⟨hmoved, hkept⟩ := ih
      rw [List.range'_concat, List.foldl_append, List.foldl_cons, List.foldl_nil, Nat.one_mul,
        Nat.add_sub_cancel_left]
      constructor
      · intro j hj
        rcases Nat.lt_succ_iff_lt_or_eq.mp hj with hlt | rfl
        · rw [Function.update_of_ne hlt.ne, hmoved j hlt]
        · rw [Function.update_self, hkept _ (by omega), Nat.add_comm]
      · intro j hj
        rw [Function.update_of_ne (by omega), hkept j (by omega)]
  exact (hrounds (count - n)).1 i (by omega)

/-- The context after the first `n` requests were taken off. -/
structure NsAioContext.Drops (ctx : NsAioContext) (n : Nat) (ctx' : NsAioContext) : Prop where
  used : ctx'.used = ctx.used
  ownerTask : ctx'.ownerTask = ctx.ownerTask
  maxevents : ctx'.maxevents = ctx.maxevents
  reqCount : ctx'.reqCount = ctx.reqCount - n
  reqs : ∀ i, i + n < ctx.reqCount → ctx'.reqs i = ctx.reqs (i + n)

lemma NsAioContext.Drops.zero (ctx : NsAioContext) :
    ctx.Drops 0 ctx := ⟨rfl, rfl, rfl, rfl, fun _ _ => rfl⟩

section Process

variable {s : AioState} {slot : Fin 4} {maxevents : BitVec 32}

/-- The events come in the order of the requests, whatever the order `l` of the disk is. -/
lemma aioProcessEvents_of_batch {b : BatchState} {l : List Nat} (devs : Nat → Device)
    (hpos : aioToProcess (s.aioContexts slot) maxevents ≠ 0)
    (hop : ∀ i < (s.aioContexts slot).reqCount, ((s.aioContexts slot).reqs i).opcode = aioOpRead ∨
      ((s.aioContexts slot).reqs i).opcode = aioOpWrite)
    (hrun : diskProcessBatch (aioBatch s (s.aioContexts slot))
      (aioToProcess (s.aioContexts slot) maxevents) =
        some (b, aioToProcess (s.aioContexts slot) maxevents))
    (hl : l.Perm (List.range (aioToProcess (s.aioContexts slot) maxevents)))
    (hio : b.SameIo Set.univ (l.foldl executeRequest (aioBatch s (s.aioContexts slot))))
    (hdevs : ∀ p i q, l = p ++ i :: q → devs i = deviceAfter s.dev (s.aioContexts slot).reqs p) :
    ∃ ctx' stats, (s.aioContexts slot).Drops (aioToProcess (s.aioContexts slot) maxevents) ctx' ∧
      aioProcessEvents s slot maxevents =
        ({ s.setContext slot ctx' with
            dev := deviceAfter s.dev (s.aioContexts slot).reqs l
            diskSchedStats := stats },
          (List.range (aioToProcess (s.aioContexts slot) maxevents)).map fun i =>
            ((s.aioContexts slot).reqs i).servedOn s.readErrors (devs i)) := by
  set ctx := s.aioContexts slot with hctx
  set n := aioToProcess ctx maxevents with hn
  have hle : n ≤ ctx.reqCount := min_le_left ..
  have hserved := batchServed_foldl s ctx (hl.nodup_iff.mpr List.nodup_range)
    fun i hi => hop i ((List.mem_range.mp (hl.mem_iff.mp hi)).trans_le hle)
  set reqs := fun i => if i < n then finishedReq s.readErrors b i (ctx.reqs i) else ctx.reqs i
    with hreqs
  refine ⟨{ ctx with reqs := shiftReqs reqs n ctx.reqCount, reqCount := ctx.reqCount - n },
    b.diskSchedStats, ⟨rfl, rfl, rfl, rfl, ?_⟩, ?_⟩
  · intro i hi
    change shiftReqs reqs n ctx.reqCount i = ctx.reqs (i + n)
    rw [shiftReqs_apply reqs hi, hreqs]
    exact if_neg (by omega)
  · have hlist : (List.range n).map (fun i => servedReq (reqs i)) =
        (List.range n).map fun i => (ctx.reqs i).servedOn s.readErrors (devs i) := by
      apply List.map_congr_left
      intro i hi
      obtain ⟨p, q, hsplit⟩ := List.append_of_mem (hl.mem_iff.mpr hi)
      rw [hdevs p i q hsplit, ← hserved.served p i q hsplit]
      have hfinished : reqs i = finishedReq s.readErrors b i (ctx.reqs i) :=
        if_pos (List.mem_range.mp hi)
      rw [hfinished, finishedReq_congr (hio.result i trivial) (by rw [hio.mem])]
    rw [← hlist, ← hserved.dev, ← hio.dev]
    simp only [aioProcessEvents, ← hctx, ← hn, if_neg hpos, hrun]
    rfl

lemma aioProcessEvents_nothing (hzero : aioToProcess (s.aioContexts slot) maxevents = 0) :
    (s.aioContexts slot).Drops (aioToProcess (s.aioContexts slot) maxevents)
        (s.aioContexts slot) ∧
      aioProcessEvents s slot maxevents =
        ({ s.setContext slot (s.aioContexts slot) with
            dev := s.dev, diskSchedStats := s.diskSchedStats }, []) := by
  refine ⟨hzero ▸ NsAioContext.Drops.zero _, ?_⟩
  rw [aioProcessEvents, if_pos hzero, AioState.setContext, Function.update_eq_self]

/-- Whatever the order `l` in which the disk is asked, each request meets the device as the requests
before it in `l` leave it, and the events come in the order of the requests. -/
theorem aioProcessEvents_any (maxevents : BitVec 32)
    (hcount : (s.aioContexts slot).reqCount ≤ 64)
    (hop : ∀ i < (s.aioContexts slot).reqCount, ((s.aioContexts slot).reqs i).opcode = aioOpRead ∨
      ((s.aioContexts slot).reqs i).opcode = aioOpWrite) :
    ∃ ctx' stats l, (s.aioContexts slot).Drops (aioToProcess (s.aioContexts slot) maxevents) ctx' ∧
      aioProcessEvents s slot maxevents =
        ({ s.setContext slot ctx' with
            dev := deviceAfter s.dev (s.aioContexts slot).reqs l
            diskSchedStats := stats },
          (List.range (aioToProcess (s.aioContexts slot) maxevents)).map fun i =>
            ((s.aioContexts slot).reqs i).servedOn s.readErrors
              (deviceAfter s.dev (s.aioContexts slot).reqs (l.take (l.idxOf i)))) := by
  by_cases hzero : aioToProcess (s.aioContexts slot) maxevents = 0
  · obtain ⟨hdrops, hrun⟩ := aioProcessEvents_nothing hzero
    refine ⟨s.aioContexts slot, s.diskSchedStats, [], hdrops, ?_⟩
    rw [hrun, hzero]
    rfl
  · have hle : aioToProcess (s.aioContexts slot) maxevents ≤ (s.aioContexts slot).reqCount :=
      min_le_left ..
    obtain ⟨b, l, hrun, -, hl, -, hio⟩ := diskProcessBatch_stable
      (s := aioBatch s (s.aioContexts slot)) (hle.trans hcount) fun i _ => aioSectorAddr_ne_zero i
    have hnodup : l.Nodup := hl.nodup_iff.mpr List.nodup_range
    obtain ⟨ctx', stats, hdrops, hevents⟩ := aioProcessEvents_of_batch (fun i =>
      deviceAfter s.dev (s.aioContexts slot).reqs (l.take (l.idxOf i))) hzero hop hrun hl hio
      fun p i q hsplit => by
        subst hsplit
        have hi : i ∉ p := fun hi =>
          (List.nodup_append.mp hnodup).2.2 i hi i List.mem_cons_self rfl
        rw [List.idxOf_append_of_notMem hi, List.idxOf_cons_self, Nat.add_zero,
          List.take_left]
    exact ⟨ctx', stats, l, hdrops, hevents⟩

/-- When the requests for each sector are in the order of their LBAs, each is served as if the disk
had been asked for one request after the other. -/
theorem aioProcessEvents_spec (hcount : (s.aioContexts slot).reqCount ≤ 64)
    (hop : ∀ i < (s.aioContexts slot).reqCount, ((s.aioContexts slot).reqs i).opcode = aioOpRead ∨
      ((s.aioContexts slot).reqs i).opcode = aioOpWrite)
    (hsectors : (aioBatch s (s.aioContexts slot)).SectorsInOrder
      (aioToProcess (s.aioContexts slot) maxevents)) :
    ∃ ctx' stats, (s.aioContexts slot).Drops (aioToProcess (s.aioContexts slot) maxevents) ctx' ∧
      aioProcessEvents s slot maxevents =
        ({ s.setContext slot ctx' with
            dev := deviceAfter s.dev (s.aioContexts slot).reqs
              (List.range (aioToProcess (s.aioContexts slot) maxevents))
            diskSchedStats := stats },
          (List.range (aioToProcess (s.aioContexts slot) maxevents)).map fun i =>
            ((s.aioContexts slot).reqs i).servedOn s.readErrors
              (deviceAfter s.dev (s.aioContexts slot).reqs (List.range i))) := by
  by_cases hzero : aioToProcess (s.aioContexts slot) maxevents = 0
  · obtain ⟨hdrops, hrun⟩ := aioProcessEvents_nothing hzero
    refine ⟨s.aioContexts slot, s.diskSchedStats, hdrops, ?_⟩
    rw [hrun, hzero]
    rfl
  · have hle : aioToProcess (s.aioContexts slot) maxevents ≤ (s.aioContexts slot).reqCount :=
      min_le_left ..
    obtain ⟨b, hrun, hio⟩ := diskProcessBatch_sameIo (hle.trans hcount)
      (fun i _ => aioSectorAddr_ne_zero i) (fun i _ j _ hij => aioSectorAddr_disjoint hij) hsectors
    refine aioProcessEvents_of_batch _ hzero hop hrun (List.Perm.refl _) hio fun p i q hsplit => ?_
    have hp : p = List.range i := by
      have hlen : p.length = i := by
        have hat := congrArg (·[p.length]?) hsplit
        have hlt : p.length < aioToProcess (s.aioContexts slot) maxevents := by
          rw [← List.length_range (n := aioToProcess (s.aioContexts slot) maxevents), hsplit]
          simp
        simpa [List.getElem?_range hlt] using hat
      have hpre := congrArg (List.take i) hsplit
      rw [List.take_range, ← hlen, List.take_left] at hpre
      rw [← hpre, hlen, min_eq_left]
      rw [← List.length_range (n := aioToProcess (s.aioContexts slot) maxevents), hsplit, ← hlen]
      simp
    rw [hp]

end Process

end NeuroSpark
