import Mathlib.Data.List.Induction
import NeuroSpark.Lib.Commuting
import NeuroSpark.Disk.PageCache

/-!
# Batches of sector requests

`disk_process_batch` takes an array of at most 64 requests, sorts their indices by LBA and executes
them in that order on the uncached path. Buffers are addresses of 512 bytes of memory, and address
zero is the null pointer. The local array `order` is not initialised in the source, so an entry that
was never written is `none` here, and a run that reads one gives `none`.
-/

namespace NeuroSpark

variable {a b : Nat}

abbrev Memory := Nat → UInt8

def loadSector (mem : Memory) (addr : Nat) : Sector := Bytes.ofFun fun k => mem (addr + k)

def storeSector (mem : Memory) (addr : Nat) (data : Sector) : Memory := fun a =>
  if addr ≤ a ∧ a < addr + 512 then data.get (a - addr) else mem a

/-- Two buffers of 512 bytes that do not overlap. -/
def BufferDisjoint (a b : Nat) : Prop := a + 512 ≤ b ∨ b + 512 ≤ a

lemma BufferDisjoint.symm (h : BufferDisjoint a b) : BufferDisjoint b a := Or.symm h

lemma loadSector_storeSector (h : BufferDisjoint a b) (mem : Memory) (data : Sector) :
    loadSector (storeSector mem a data) b = loadSector mem b := by
  apply Bytes.ext_get
  intro k hk
  rw [loadSector, loadSector, Bytes.get_ofFun _ hk, Bytes.get_ofFun _ hk, storeSector, if_neg]
  rcases h with h | h <;> omega

lemma storeSector_comm (h : BufferDisjoint a b) (mem : Memory) (d e : Sector) :
    storeSector (storeSector mem a d) b e = storeSector (storeSector mem b e) a d := by
  funext x
  apply ite_ite_comm
  rcases h with h | h <;> omega

/-- `DiskIoResult`, with one value for all the errors of a read. -/
inductive DiskIoResult where
  | ok
  | errUnsupported
  | errRead
  deriving DecidableEq, Repr

structure DiskBatchRequest where
  lba : Nat
  buffer : Nat
  write : Bool
  result : DiskIoResult

structure DiskSchedulerStats where
  batches : UInt32
  requests : UInt32
  reorderedRequests : UInt32
  maxBatchDepth : UInt32
  lastLba : Nat

/-- What a batch works on: the device, the memory of the buffers, the array of requests and
`disk_sched_stats`. `executed` is no variable of the source: it lists the requests for which a disk
routine was called, in the order of the calls. -/
structure BatchState where
  dev : Device
  mem : Memory
  reqs : Nat → DiskBatchRequest
  diskSchedStats : DiskSchedulerStats
  executed : List Nat

/-- The disk call that serves a request, with its result `rc`. -/
def serveRequest (dev : Device) (mem : Memory) (r : DiskBatchRequest) :
    Device × Memory × DiskIoResult :=
  if r.write then (diskWriteSectorUncached dev r.lba (loadSector mem r.buffer), mem, .ok)
  else
    match diskReadSectorUncached dev r.lba with
    | none => (dev, mem, .errRead)
    | some data => (dev, storeSector mem r.buffer data, .ok)

/-- Serve request `idx` and store its result in the array. -/
def executeRequest (s : BatchState) (idx : Nat) : BatchState :=
  let (dev, mem, rc) := serveRequest s.dev s.mem (s.reqs idx)
  { s with
    dev := dev
    mem := mem
    reqs := Function.update s.reqs idx { s.reqs idx with result := rc } }

/-- The local array `order[64]`. -/
abbrev BatchOrder := List (Option Nat)

/-- One round of the first loop: the result is preset, and the index of a request without a buffer
is not entered into `order`. -/
def markRequest (st : (Nat → DiskBatchRequest) × BatchOrder) (i : Nat) :
    (Nat → DiskBatchRequest) × BatchOrder :=
  let reqs := Function.update st.1 i { st.1 i with result := .errUnsupported }
  if (reqs i).buffer = 0 then (reqs, st.2) else (reqs, st.2.set i (some i))

/-- The inner loop of the insertion sort: `j` is the position that is free for `key`. -/
def insertKey (reqs : Nat → DiskBatchRequest) (key : Nat) : BatchOrder → Nat → Option BatchOrder
  | order, 0 => some (order.set 0 (some key))
  | order, j + 1 =>
    match order[j]?.join with
    | none => none
    | some prev =>
      if (reqs prev).lba > (reqs key).lba then
        insertKey reqs key (order.set (j + 1) (some prev)) j
      else some (order.set (j + 1) (some key))

/-- One round of the outer loop of the insertion sort. -/
def sortEntry (reqs : Nat → DiskBatchRequest) (order : BatchOrder) (i : Nat) : Option BatchOrder :=
  match order[i]?.join with
  | none => none
  | some key => insertKey reqs key order i

/-- One round of the last loop, with the number of requests processed so far. -/
def processEntry (order : BatchOrder) (st : BatchState × Nat) (pos : Nat) :
    Option (BatchState × Nat) :=
  match order[pos]?.join with
  | none => none
  | some idx =>
    if (st.1.reqs idx).buffer = 0 then some st
    else
      let s := executeRequest st.1 idx
      let stats := { s.diskSchedStats with lastLba := (s.reqs idx).lba }
      let stats :=
        if idx ≠ pos then { stats with reorderedRequests := stats.reorderedRequests + 1 } else stats
      some ({ s with diskSchedStats := stats, executed := s.executed ++ [idx] }, st.2 + 1)

/-- The statistics kept at the end of a batch. -/
def finishBatch (count : Nat) (st : BatchState × Nat) : BatchState × Nat :=
  let stats := st.1.diskSchedStats
  ({ st.1 with
      diskSchedStats :=
        { stats with
          batches := stats.batches + 1
          requests := stats.requests + UInt32.ofNat st.2
          maxBatchDepth := max stats.maxBatchDepth (UInt32.ofNat count) } }, st.2)

/-- A null array of requests is an empty one here. -/
def diskProcessBatch (s : BatchState) (count : Nat) : Option (BatchState × Nat) :=
  if count = 0 then some (s, 0)
  else
    let count := min count 64
    let marked := (List.range count).foldl markRequest (s.reqs, List.replicate 64 none)
    do
      let order ← (List.range' 1 (count - 1)).foldlM (sortEntry marked.1) marked.2
      let st ← (List.range count).foldlM (processEntry order) ({ s with reqs := marked.1 }, 0)
      some (finishBatch count st)

/-! ### Serving requests on different sectors -/

lemma diskWriteSectorUncached_comm {dev : Device} {l l' : Nat}
    (h : dev.sectorOf l ≠ dev.sectorOf l') (b b' : Sector) :
    diskWriteSectorUncached (diskWriteSectorUncached dev l b) l' b' =
      diskWriteSectorUncached (diskWriteSectorUncached dev l' b') l b := by
  by_cases hl : dev.writeFault (dev.sectorOf l) <;> by_cases hl' : dev.writeFault (dev.sectorOf l') <;>
    simp [diskWriteSectorUncached, hl, hl', Device.sectorOf, Function.update_comm h]

lemma diskReadSectorUncached_write {dev : Device} {l l' : Nat}
    (h : dev.sectorOf l ≠ dev.sectorOf l') (b : Sector) :
    diskReadSectorUncached (diskWriteSectorUncached dev l b) l' =
      diskReadSectorUncached dev l' := by
  by_cases hl : dev.writeFault (dev.sectorOf l) <;>
    simp [diskWriteSectorUncached, diskReadSectorUncached, hl, Device.contents, Device.sectorOf,
      Function.update_of_ne h.symm]

section Serve

variable {dev : Device} {mem : Memory} {r r' : DiskBatchRequest}

lemma serveRequest_write (hw : r.write = true) : serveRequest dev mem r =
    (diskWriteSectorUncached dev r.lba (loadSector mem r.buffer), mem, .ok) := by
  rw [serveRequest, if_pos hw]

lemma serveRequest_errRead (hw : r.write = false) (hr : diskReadSectorUncached dev r.lba = none) :
    serveRequest dev mem r = (dev, mem, .errRead) := by
  simp only [serveRequest, hw, hr]
  rfl

lemma serveRequest_read {data : Sector} (hw : r.write = false)
    (hr : diskReadSectorUncached dev r.lba = some data) :
    serveRequest dev mem r = (dev, storeSector mem r.buffer data, .ok) := by
  simp only [serveRequest, hw, hr]
  rfl

lemma serveRequest_comm_write (mem : Memory) (hl : dev.sectorOf r.lba ≠ dev.sectorOf r'.lba)
    (hb : BufferDisjoint r.buffer r'.buffer) (hw : r.write = true) : ∃ x y,
      serveRequest (serveRequest dev mem r).1 (serveRequest dev mem r).2.1 r' =
          (x, y, (serveRequest dev mem r').2.2) ∧
        serveRequest (serveRequest dev mem r').1 (serveRequest dev mem r').2.1 r =
          (x, y, (serveRequest dev mem r).2.2) := by
  rw [serveRequest_write hw]
  cases hw' : r'.write with
  | true =>
    rw [serveRequest_write hw', serveRequest_write hw', serveRequest_write hw]
    refine ⟨_, _, rfl, ?_⟩
    rw [diskWriteSectorUncached_comm hl]
  | false =>
    cases hr' : diskReadSectorUncached dev r'.lba with
    | none =>
      rw [serveRequest_errRead hw' hr', serveRequest_errRead hw'
        ((diskReadSectorUncached_write hl _).trans hr'), serveRequest_write hw]
      exact ⟨_, _, rfl, rfl⟩
    | some data =>
      rw [serveRequest_read hw' hr', serveRequest_read hw'
        ((diskReadSectorUncached_write hl _).trans hr'), serveRequest_write hw]
      refine ⟨_, _, rfl, ?_⟩
      rw [loadSector_storeSector hb.symm]

/-- Requests for two sectors may be exchanged, and so may two reads. -/
lemma serveRequest_comm (mem : Memory)
    (hl : dev.sectorOf r.lba = dev.sectorOf r'.lba → r.write = false ∧ r'.write = false)
    (hb : BufferDisjoint r.buffer r'.buffer) : ∃ x y,
      serveRequest (serveRequest dev mem r).1 (serveRequest dev mem r).2.1 r' =
          (x, y, (serveRequest dev mem r').2.2) ∧
        serveRequest (serveRequest dev mem r').1 (serveRequest dev mem r').2.1 r =
          (x, y, (serveRequest dev mem r).2.2) := by
  cases hw : r.write with
  | true =>
    refine serveRequest_comm_write mem (fun hsector => ?_) hb hw
    cases hw.symm.trans (hl hsector).1
  | false =>
    cases hw' : r'.write with
    | true =>
      have hne : dev.sectorOf r'.lba ≠ dev.sectorOf r.lba := by
        intro hsector
        cases hw'.symm.trans (hl hsector.symm).2
      obtain ⟨x, y, h, h'⟩ := serveRequest_comm_write mem hne hb.symm hw'
      exact ⟨x, y, h', h⟩
    | false =>
      cases hr : diskReadSectorUncached dev r.lba <;>
        cases hr' : diskReadSectorUncached dev r'.lba
      case none.none =>
        simp only [serveRequest_errRead hw hr, serveRequest_errRead hw' hr']
        exact ⟨_, _, rfl, rfl⟩
      case none.some data' =>
        simp only [serveRequest_errRead hw hr, serveRequest_read hw' hr']
        exact ⟨_, _, rfl, rfl⟩
      case some.none data =>
        simp only [serveRequest_read hw hr, serveRequest_errRead hw' hr']
        exact ⟨_, _, rfl, rfl⟩
      case some.some data data' =>
        simp only [serveRequest_read hw hr, serveRequest_read hw' hr']
        refine ⟨_, _, rfl, ?_⟩
        rw [storeSector_comm hb]

end Serve

/-- The requests of a batch as the caller wrote them, whatever their results are. -/
def BatchState.Asks (s : BatchState) (reqs : Nat → DiskBatchRequest) : Prop :=
  ∀ i, (s.reqs i).lba = (reqs i).lba ∧ (s.reqs i).buffer = (reqs i).buffer ∧
    (s.reqs i).write = (reqs i).write

lemma executeRequest_asks {s : BatchState} {reqs : Nat → DiskBatchRequest} (hs : s.Asks reqs)
    (idx : Nat) : (executeRequest s idx).Asks reqs := by
  intro i
  by_cases hi : i = idx
  · subst hi
    simpa [executeRequest] using hs i
  · simpa [executeRequest, hi] using hs i

lemma executeRequest_backend (s : BatchState) (idx : Nat) :
    (executeRequest s idx).dev.backend = s.dev.backend := by
  simp only [executeRequest, serveRequest]
  split
  · exact diskWriteSectorUncached_backend ..
  split <;> rfl

lemma executeRequest_comm {s : BatchState} {i j : Nat} (hij : i ≠ j)
    (hl : s.dev.sectorOf (s.reqs i).lba = s.dev.sectorOf (s.reqs j).lba →
      (s.reqs i).write = false ∧ (s.reqs j).write = false)
    (hb : BufferDisjoint (s.reqs i).buffer (s.reqs j).buffer) :
    executeRequest (executeRequest s i) j = executeRequest (executeRequest s j) i := by
  obtain ⟨x, y, h, h'⟩ := serveRequest_comm s.mem hl hb
  simp only [executeRequest, Function.update_of_ne hij, Function.update_of_ne hij.symm, h, h',
    Function.update_comm hij]

/-! ### The order of execution -/

/-- The order the sort establishes: by LBA, requests on one sector as they were submitted. -/
abbrev LbaBefore (reqs : Nat → DiskBatchRequest) : Nat → Nat → Prop :=
  Commuting.Before fun i => (reqs i).lba

section Sorting

variable {reqs : Nat → DiskBatchRequest}

/-- The inner loop moves the larger entries of the sorted part `p` up by one and puts `key` into
the gap, which starts behind `p`. -/
lemma insertKey_spec {key : Nat} {p : List Nat} (hp : p.Pairwise (LbaBefore reqs))
    (hkey : ∀ i ∈ p, i < key) (x : Option Nat) (t : BatchOrder) :
    ∃ l : List Nat, insertKey reqs key (p.map some ++ x :: t) p.length = some (l.map some ++ t) ∧
      l.Perm (key :: p) ∧ l.Pairwise (LbaBefore reqs) := by
  induction p using List.reverseRecOn generalizing x t with
  | nil => exact ⟨[key], rfl, List.Perm.refl _, List.pairwise_singleton ..⟩
  | append_singleton p last ih =>
    obtain ⟨hp', -, hlast⟩ := List.pairwise_append.mp hp
    have hprev : ((p ++ [last]).map some ++ x :: t)[p.length]?.join = some last := by simp
    have hset : ∀ v, ((p ++ [last]).map some ++ x :: t).set (p.length + 1) v =
        (p ++ [last]).map some ++ v :: t := by
      simp
    rw [List.length_append, List.length_singleton, insertKey, hprev]
    by_cases hgt : (reqs last).lba > (reqs key).lba
    · obtain ⟨l, hl, hperm, hsorted⟩ := ih hp' (fun i hi => hkey i (List.mem_append_left _ hi))
        (some last) (some last :: t)
      refine ⟨l ++ [last], ?_, ?_, ?_⟩
      · simp only [if_pos hgt, hset]
        simpa using hl
      · exact hperm.append_right [last]
      · rw [List.pairwise_append]
        refine ⟨hsorted, List.pairwise_singleton .., ?_⟩
        intro i hi j hj
        rw [List.mem_singleton] at hj
        subst hj
        rcases List.mem_cons.mp (hperm.mem_iff.mp hi) with rfl | hi'
        · exact Or.inl hgt
        · exact hlast i hi' j (List.mem_singleton_self j)
    · refine ⟨p ++ [last] ++ [key], ?_, List.perm_append_singleton .., ?_⟩
      · simp only [if_neg hgt, hset]
        simp
      · rw [List.pairwise_append]
        refine ⟨hp, List.pairwise_singleton .., ?_⟩
        intro i hi j hj
        rw [List.mem_singleton] at hj
        subst hj
        -- everything in the sorted part is at most its last entry, which stays below `key`
        have hle : (reqs i).lba ≤ (reqs last).lba := by
          rcases List.mem_append.mp hi with hi' | hi'
          · rcases hlast i hi' last (List.mem_singleton_self last) with h | ⟨h, -⟩
            · exact h.le
            · exact h.le
          · rw [List.mem_singleton.mp hi']
        rcases (hle.trans (not_lt.mp hgt)).lt_or_eq with h | h
        · exact Or.inl h
        · exact Or.inr ⟨h, hkey i hi⟩

lemma sortEntries_spec (reqs : Nat → DiskBatchRequest) (k : Nat) {l : List Nat}
    (hl : l.Pairwise (LbaBefore reqs)) (hlt : ∀ i ∈ l, i < l.length) (t : BatchOrder) :
    ∃ l' : List Nat, (List.range' l.length k).foldlM (sortEntry reqs)
        (l.map some ++ (List.range' l.length k).map some ++ t) = some (l'.map some ++ t) ∧
      l'.Perm (l ++ List.range' l.length k) ∧ l'.Pairwise (LbaBefore reqs) := by
  induction k generalizing l with
  | zero => exact ⟨l, by simp, by simp, hl⟩
  | succ k ih =>
    obtain ⟨m, hm, hperm, hsorted⟩ := insertKey_spec hl hlt (some l.length)
      ((List.range' (l.length + 1) k).map some ++ t)
    have hlen : m.length = l.length + 1 := by
      rw [hperm.length_eq, List.length_cons]
    have hmlt : ∀ i ∈ m, i < m.length := by
      intro i hi
      rw [hlen]
      rcases List.mem_cons.mp (hperm.mem_iff.mp hi) with rfl | hi'
      · exact Nat.lt_succ_self _
      · exact Nat.lt_succ_of_lt (hlt i hi')
    obtain ⟨l', hl', hperm', hsorted'⟩ := ih hsorted hmlt
    rw [hlen] at hl' hperm'
    refine ⟨l', ?_, ?_, hsorted'⟩
    · have hentry : sortEntry reqs
          (l.map some ++ (List.range' l.length (k + 1)).map some ++ t) l.length =
          some (m.map some ++ (List.range' (l.length + 1) k).map some ++ t) := by
        rw [sortEntry, List.range'_succ]
        simp [← hm]
      rw [List.range'_succ, List.foldlM_cons, ← List.range'_succ, hentry]
      exact hl'
    · exact hperm'.trans ((hperm.append_right _).trans List.perm_middle.symm)

end Sorting

/-! ### The three loops -/

/-- The entry the first loop leaves in `order`. -/
def markedEntry (reqs : Nat → DiskBatchRequest) (i : Nat) : Option Nat :=
  if (reqs i).buffer = 0 then none else some i

/-- The array after the first loop. -/
def markedReqs (reqs : Nat → DiskBatchRequest) (count : Nat) : Nat → DiskBatchRequest := fun i =>
  if i < count then { reqs i with result := .errUnsupported } else reqs i

lemma markRequests_spec (reqs : Nat → DiskBatchRequest) {count : Nat} (hc : count ≤ 64) :
    (List.range count).foldl markRequest (reqs, List.replicate 64 none) =
      (markedReqs reqs count,
        (List.range count).map (markedEntry reqs) ++ List.replicate (64 - count) none) := by
  induction count with
  | zero =>
    have hnone : markedReqs reqs 0 = reqs := funext fun i => if_neg (Nat.not_lt_zero i)
    simp [hnone]
  | succ count ih =>
    have hreqs : Function.update (markedReqs reqs count) count
        { markedReqs reqs count count with result := .errUnsupported } =
        markedReqs reqs (count + 1) := by
      funext i
      by_cases hi : i = count
      · subst hi
        simp [markedReqs]
      · have hlt : i < count ↔ i < count + 1 := by omega
        simp [markedReqs, hi, hlt]
    have hrest : List.replicate (64 - count) (none : Option Nat) =
        none :: List.replicate (64 - (count + 1)) none := by
      rw [← List.replicate_succ]
      congr 1
      omega
    have hset : ∀ v, ((List.range count).map (markedEntry reqs) ++
        none :: List.replicate (64 - (count + 1)) none).set count v =
        (List.range count).map (markedEntry reqs) ++
          v :: List.replicate (64 - (count + 1)) none := by
      simp
    rw [List.range_succ, List.foldl_append, ih (by omega), List.foldl_cons, List.foldl_nil,
      markRequest, hreqs, hrest, List.map_append, List.append_assoc]
    have hbuf : (markedReqs reqs (count + 1) count).buffer = (reqs count).buffer := by
      simp [markedReqs]
    simp only [hbuf, hset, List.map_singleton, List.singleton_append, markedEntry]
    split_ifs
    · rfl
    · rfl

/-- Two states of a batch with the same disk and buffers, the same requests, and the same results
for the requests in `done`. -/
structure BatchState.SameIo (done : Set Nat) (s t : BatchState) : Prop where
  dev : s.dev = t.dev
  mem : s.mem = t.mem
  asks : s.Asks t.reqs
  result : ∀ i ∈ done, (s.reqs i).result = (t.reqs i).result

lemma serveRequest_congr {r r' : DiskBatchRequest} (hl : r.lba = r'.lba) (hb : r.buffer = r'.buffer)
    (hw : r.write = r'.write) (dev : Device) (mem : Memory) :
    serveRequest dev mem r = serveRequest dev mem r' := by
  rw [serveRequest, serveRequest, hl, hb, hw]

lemma BatchState.SameIo.execute {done : Set Nat} {s t : BatchState} (h : s.SameIo done t)
    (idx : Nat) : (executeRequest s idx).SameIo (insert idx done) (executeRequest t idx) := by
  obtain ⟨hl, hb, hw⟩ := h.asks idx
  have hserve : serveRequest s.dev s.mem (s.reqs idx) = serveRequest t.dev t.mem (t.reqs idx) := by
    rw [h.dev, h.mem, serveRequest_congr hl hb hw]
  constructor
  · simp only [executeRequest, hserve]
  · simp only [executeRequest, hserve]
  · intro i
    by_cases hi : i = idx
    · subst hi
      simpa [executeRequest] using h.asks i
    · simpa [executeRequest, hi] using h.asks i
  · intro i hi
    by_cases hidx : i = idx
    · subst hidx
      simp [executeRequest, hserve]
    · have hdone : i ∈ done := Set.mem_of_mem_insert_of_ne hi hidx
      simpa [executeRequest, hidx] using h.result i hdone

lemma processEntries_spec {order : BatchOrder} {l m : List Nat} {t : BatchOrder}
    (horder : order = (l ++ m).map some ++ t) {done : Set Nat} {s u : BatchState}
    (h : s.SameIo done u) (hnull : ∀ i ∈ m, (s.reqs i).buffer ≠ 0) (n : Nat) :
    ∃ s', (List.range' l.length m.length).foldlM (processEntry order) (s, n) =
        some (s', n + m.length) ∧
      s'.SameIo (done ∪ {i | i ∈ m}) (m.foldl executeRequest u) ∧
      s'.executed = s.executed ++ m := by
  induction m generalizing l s u done n with
  | nil => exact ⟨s, by simp, by simpa using h, by simp⟩
  | cons idx m ih =>
    have hentry : order[l.length]?.join = some idx := by
      simp [horder]
    have hidx : (s.reqs idx).buffer ≠ 0 := hnull idx List.mem_cons_self
    obtain ⟨s₁, hs₁, hio, hreqs, hexec⟩ : ∃ s₁, processEntry order (s, n) l.length =
        some (s₁, n + 1) ∧ s₁.SameIo (insert idx done) (executeRequest u idx) ∧
          s₁.Asks s.reqs ∧ s₁.executed = s.executed ++ [idx] := by
      simp only [processEntry, hentry, if_neg hidx]
      refine ⟨_, rfl, ?_, ?_, rfl⟩
      · have hx := h.execute idx
        exact ⟨hx.dev, hx.mem, hx.asks, hx.result⟩
      · exact executeRequest_asks (fun i => ⟨rfl, rfl, rfl⟩) idx
    have hnull' : ∀ i ∈ m, (s₁.reqs i).buffer ≠ 0 := by
      intro i hi
      rw [(hreqs i).2.1]
      exact hnull i (List.mem_cons_of_mem _ hi)
    obtain ⟨s', hs', hio', hexec'⟩ := ih (l := l ++ [idx]) (by simpa using horder) hio hnull'
      (n + 1)
    refine ⟨s', ?_, ?_, ?_⟩
    · rw [List.length_cons, List.range'_succ, List.foldlM_cons, hs₁]
      simpa [Nat.add_assoc, Nat.add_comm 1] using hs'
    · have hset : done ∪ {i | i ∈ idx :: m} = insert idx done ∪ {i | i ∈ m} := by
        ext i
        simp [or_assoc, or_left_comm]
      rw [hset]
      exact hio'
    · rw [hexec', hexec, List.append_assoc]
      rfl

/-! ### Batches without null buffers -/

lemma markedReqs_asks (reqs : Nat → DiskBatchRequest) (count i : Nat) :
    (markedReqs reqs count i).lba = (reqs i).lba ∧
      (markedReqs reqs count i).buffer = (reqs i).buffer ∧
      (markedReqs reqs count i).write = (reqs i).write := by
  rw [markedReqs]
  split_ifs
  · exact ⟨rfl, rfl, rfl⟩
  · exact ⟨rfl, rfl, rfl⟩

lemma diskProcessBatch_eq (s : BatchState) {n : Nat} (hc : n + 1 ≤ 64) :
    diskProcessBatch s (n + 1) = (do
      let order ← (List.range' 1 n).foldlM (sortEntry (markedReqs s.reqs (n + 1)))
        ((List.range (n + 1)).map (markedEntry s.reqs) ++ List.replicate (64 - (n + 1)) none)
      let st ← (List.range (n + 1)).foldlM (processEntry order)
        ({ s with reqs := markedReqs s.reqs (n + 1) }, 0)
      some (finishBatch (n + 1) st)) := by
  simp only [diskProcessBatch, if_neg (Nat.succ_ne_zero n), min_eq_left hc,
    markRequests_spec s.reqs hc, Nat.add_sub_cancel]

/-- Without null buffers the batch executes all its requests, in the stable order by LBA. -/
lemma diskProcessBatch_stable {s : BatchState} {count : Nat} (hc : count ≤ 64)
    (hnull : ∀ i < count, (s.reqs i).buffer ≠ 0) :
    ∃ s' l, diskProcessBatch s count = some (s', count) ∧ s'.executed = s.executed ++ l ∧
      l.Perm (List.range count) ∧ l.Pairwise (LbaBefore s.reqs) ∧
      s'.SameIo Set.univ (l.foldl executeRequest s) := by
  cases count with
  | zero =>
    exact ⟨s, [], rfl, by simp, List.Perm.refl _, List.Pairwise.nil, rfl, rfl,
      fun i => ⟨rfl, rfl, rfl⟩, fun i _ => rfl⟩
  | succ n =>
    set reqs := markedReqs s.reqs (n + 1)
    have hrange : 0 :: List.range' 1 n = List.range (n + 1) := by
      rw [List.range_eq_range', List.range'_succ]
    have hentries : (List.range (n + 1)).map (markedEntry s.reqs) = [0].map some ++
        (List.range' 1 n).map some := by
      rw [← List.map_append, List.singleton_append, hrange]
      apply List.map_congr_left
      intro i hi
      exact if_neg (hnull i (List.mem_range.mp hi))
    obtain ⟨l, hl, hperm, hsorted⟩ := sortEntries_spec reqs n (l := [0])
      (List.pairwise_singleton ..) (by simp) (List.replicate (64 - (n + 1)) none)
    rw [List.singleton_append, List.length_singleton, hrange] at hperm
    have hlen : l.length = n + 1 := by
      rw [hperm.length_eq, List.length_range]
    have hsame : BatchState.SameIo {i | n + 1 ≤ i} { s with reqs := reqs } s := by
      refine ⟨rfl, rfl, markedReqs_asks s.reqs (n + 1), fun i hi => ?_⟩
      have hmark : reqs i = s.reqs i := if_neg (not_lt.mpr hi)
      exact congrArg DiskBatchRequest.result hmark
    have hnull' : ∀ i ∈ l, (reqs i).buffer ≠ 0 := by
      intro i hi
      rw [(markedReqs_asks s.reqs (n + 1) i).2.1]
      exact hnull i (List.mem_range.mp (hperm.mem_iff.mp hi))
    obtain ⟨s', hs', hio, hexec⟩ := processEntries_spec (l := []) (m := l)
      (t := List.replicate (64 - (n + 1)) none) rfl hsame hnull' 0
    rw [hlen, List.length_nil, ← List.range_eq_range', Nat.zero_add] at hs'
    have hall : {i | n + 1 ≤ i} ∪ {i | i ∈ l} = Set.univ := by
      ext i
      simp only [Set.mem_union, Set.mem_ofPred_eq, hperm.mem_iff, List.mem_range, Set.mem_univ,
        iff_true]
      exact le_or_gt (n + 1) i
    rw [hall] at hio
    refine ⟨(finishBatch (n + 1) (s', n + 1)).1, l, ?_, hexec, hperm, ?_, ?_⟩
    · rw [List.length_singleton] at hl
      rw [diskProcessBatch_eq s hc, hentries, hl, Option.bind_eq_bind, Option.bind_some]
      rw [List.nil_append] at hs'
      rw [hs', Option.bind_eq_bind, Option.bind_some]
      rfl
    · apply hsorted.imp
      intro i j hij
      rwa [LbaBefore, Commuting.Before, (markedReqs_asks s.reqs (n + 1) i).1,
        (markedReqs_asks s.reqs (n + 1) j).1] at hij
    · exact ⟨hio.dev, hio.mem, hio.asks, hio.result⟩

/-- Executing the requests one by one in the order of the array. -/
def executeInOrder (s : BatchState) (count : Nat) : BatchState :=
  (List.range count).foldl executeRequest s

/-- No request comes after one with a larger LBA for the same sector, unless both are reads. -/
def BatchState.SectorsInOrder (s : BatchState) (count : Nat) : Prop :=
  ∀ j < count, ∀ i < j, (s.reqs j).lba < (s.reqs i).lba →
    s.dev.sectorOf (s.reqs j).lba = s.dev.sectorOf (s.reqs i).lba →
      (s.reqs j).write = false ∧ (s.reqs i).write = false

section InOrder

variable {s : BatchState} {count : Nat}

/-- The order by LBA has the effect of that of the array. -/
lemma foldl_executeRequest_eq {l : List Nat} (hperm : l.Perm (List.range count))
    (hsorted : l.Pairwise (LbaBefore s.reqs))
    (hdisj : ∀ i < count, ∀ j < count, i ≠ j →
      BufferDisjoint (s.reqs i).buffer (s.reqs j).buffer)
    (hsectors : s.SectorsInOrder count) :
    l.foldl executeRequest s = executeInOrder s count := by
  refine Commuting.foldl_eq_of_stable (I := fun t => t.Asks s.reqs ∧ t.dev.backend = s.dev.backend)
    (fun t i ht => ⟨executeRequest_asks ht.1 i, (executeRequest_backend t i).trans ht.2⟩)
    List.pairwise_lt_range hperm hsorted ?_ ⟨fun i => ⟨rfl, rfl, rfl⟩, rfl⟩
  rintro i hi j hj hij hlt t ⟨ht, hbackend⟩
  rw [List.mem_range] at hi hj
  refine executeRequest_comm hij.ne' (fun hsector => ?_) ?_
  · rw [(ht i).2.2, (ht j).2.2]
    rw [(ht i).1, (ht j).1, Device.sectorOf, Device.sectorOf, hbackend] at hsector
    exact hsectors j hj i hij hlt hsector
  · rw [(ht i).2.1, (ht j).2.1]
    exact hdisj j hj i hi hij.ne'

lemma diskProcessBatch_sameIo (hc : count ≤ 64) (hnull : ∀ i < count, (s.reqs i).buffer ≠ 0)
    (hdisj : ∀ i < count, ∀ j < count, i ≠ j →
      BufferDisjoint (s.reqs i).buffer (s.reqs j).buffer)
    (hsectors : s.SectorsInOrder count) :
    ∃ s', diskProcessBatch s count = some (s', count) ∧
      s'.SameIo Set.univ (executeInOrder s count) := by
  obtain ⟨s', l, hrun, -, hperm, hsorted, hio⟩ := diskProcessBatch_stable hc hnull
  rw [foldl_executeRequest_eq hperm hsorted hdisj hsectors] at hio
  exact ⟨s', hrun, hio⟩

end InOrder

/-- The reordering is invisible: with disjoint buffers and no null buffer, and the requests for each
sector in the order of their LBAs, the batch executes every request exactly once, and leaves the
disk, the memory and the results as the execution in the order of the array does. -/
theorem diskProcessBatch_inOrder (s : BatchState) {count : Nat} (hc : count ≤ 64)
    (hnull : ∀ i < count, (s.reqs i).buffer ≠ 0)
    (hdisj : ∀ i < count, ∀ j < count, i ≠ j →
      BufferDisjoint (s.reqs i).buffer (s.reqs j).buffer)
    (hsectors : s.SectorsInOrder count) :
    ∃ s' l, diskProcessBatch s count = some (s', count) ∧
      s'.executed = s.executed ++ l ∧ l.Perm (List.range count) ∧
      s'.dev = (executeInOrder s count).dev ∧ s'.mem = (executeInOrder s count).mem ∧
      ∀ i, (s'.reqs i).result = ((executeInOrder s count).reqs i).result := by
  obtain ⟨s', l, hrun, hexec, hperm, hsorted, hio⟩ := diskProcessBatch_stable hc hnull
  rw [foldl_executeRequest_eq hperm hsorted hdisj hsectors] at hio
  exact ⟨s', l, hrun, hexec, hperm, hio.dev, hio.mem, fun i => hio.result i trivial⟩

/-- Three requests on one sector and its neighbour, with buffers at 512, 1024 and 1536. -/
def sampleRequests : Nat → DiskBatchRequest
  | 0 => ⟨9, 512, true, .ok⟩
  | 1 => ⟨8, 1024, true, .ok⟩
  | _ => ⟨9, 1536, false, .ok⟩

def sampleBatch (reqs : Nat → DiskBatchRequest) : BatchState where
  dev := Device.zeros .ata
  mem := fun a => UInt8.ofNat (a / 512)
  reqs := reqs
  diskSchedStats := ⟨0, 0, 0, 0, 0⟩
  executed := []

lemma sampleRequests_disjoint : ∀ i < 3, ∀ j < 3, i ≠ j →
    BufferDisjoint (sampleRequests i).buffer (sampleRequests j).buffer := by
  simp only [BufferDisjoint]
  decide

/-- A batch of three requests. -/
theorem diskProcessBatch_inOrder_sample :
    ∃ s' l, diskProcessBatch (sampleBatch sampleRequests) 3 = some (s', 3) ∧
      s'.executed = [] ++ l ∧ l.Perm (List.range 3) ∧
      s'.dev = (executeInOrder (sampleBatch sampleRequests) 3).dev ∧
      s'.mem = (executeInOrder (sampleBatch sampleRequests) 3).mem ∧
      ∀ i, (s'.reqs i).result = ((executeInOrder (sampleBatch sampleRequests) 3).reqs i).result :=
  diskProcessBatch_inOrder (sampleBatch sampleRequests) (by decide) (by decide)
    sampleRequests_disjoint (by simp only [BatchState.SectorsInOrder]; decide)

/-- Two writes to one sector of an ATA disk, the first by an LBA of more than 28 bits. -/
def aliasedRequests : Nat → DiskBatchRequest
  | 0 => ⟨0x10000005, 512, true, .ok⟩
  | _ => ⟨5, 1024, true, .ok⟩

/-- The first write is executed last and stays. -/
theorem diskProcessBatch_outOfOrder :
    ∃ s', diskProcessBatch (sampleBatch aliasedRequests) 2 = some (s', 2) ∧
      s'.dev.contents 5 ≠ (executeInOrder (sampleBatch aliasedRequests) 2).dev.contents 5 := by
  refine ⟨_, rfl, fun h => ?_⟩
  exact absurd (congrArg (Bytes.get · 0) h) (by decide +kernel)

/-! ### Batches with null buffers -/

/-- What the null check is there for: only initialised entries of `order` are read (the run gives a
result), every request with a buffer is executed once, the others keep the preset result, and the
number of the former is returned. -/
def ToleratesNull (s : BatchState) (count : Nat) : Prop :=
  ∃ s' l, diskProcessBatch s count = some (s', l.length) ∧ s'.executed = s.executed ++ l ∧
    l.Perm ((List.range count).filter fun i => (s.reqs i).buffer ≠ 0) ∧
    ∀ i < count, (s.reqs i).buffer = 0 → (s'.reqs i).result = .errUnsupported

lemma range'_split (start i k : Nat) : List.range' start (i + (k + 1)) =
    List.range' start i ++ (start + i) :: List.range' (start + i + 1) k := by
  rw [← List.range'_append_1, List.range'_succ]

lemma sortEntries_null (reqs : Nat → DiskBatchRequest) {i n : Nat} (hi : i ≤ n) (hn : n ≠ 0)
    (t : BatchOrder) : (List.range' 1 n).foldlM (sortEntry reqs)
      ((List.range i).map some ++ none :: t) = none := by
  cases i with
  | zero =>
    obtain ⟨n, rfl⟩ := Nat.exists_eq_succ_of_ne_zero hn
    have hentry : sortEntry reqs ((List.range 0).map some ++ none :: t) 1 = none := by
      rw [sortEntry]
      cases ht : ((List.range 0).map some ++ none :: t)[1]?.join with
      | none => rfl
      | some key => rfl
    rw [List.range'_succ, List.foldlM_cons, hentry]
    rfl
  | succ i =>
    obtain ⟨l, hl, hperm, -⟩ := sortEntries_spec reqs i (l := [0]) (List.pairwise_singleton ..)
      (by simp) (none :: t)
    have hlen : l.length = i + 1 := by
      rw [hperm.length_eq, List.length_append, List.length_singleton, List.length_range',
        Nat.add_comm]
    have hprefix : (List.range (i + 1)).map some =
        [0].map some ++ (List.range' 1 i).map some := by
      rw [List.range_eq_range', List.range'_succ]
      rfl
    obtain ⟨k, rfl⟩ := Nat.exists_eq_add_of_le hi
    have hsplit := range'_split 1 i k
    rw [Nat.add_left_comm, Nat.add_comm 1 i, Nat.add_comm k (i + 1)] at hsplit
    have hentry : sortEntry reqs (l.map some ++ none :: t) (i + 1) = none := by
      have hread : (l.map some ++ none :: t)[i + 1]?.join = none := by simp [← hlen]
      rw [sortEntry, hread]
    rw [hsplit, List.foldlM_append, hprefix]
    rw [List.length_singleton] at hl
    rw [hl, Option.bind_eq_bind, Option.bind_some, List.foldlM_cons, hentry]
    rfl

lemma diskProcessBatch_null {s : BatchState} {count i : Nat} (hc : count ≤ 64) (hi : i < count)
    (hnull : (s.reqs i).buffer = 0) : diskProcessBatch s count = none := by
  have hex : ∃ i, (s.reqs i).buffer = 0 := ⟨i, hnull⟩
  obtain ⟨n, rfl⟩ := Nat.exists_eq_succ_of_ne_zero (Nat.ne_zero_of_lt hi)
  classical
  set first := Nat.find hex
  have hfirst : first ≤ n := (Nat.find_min' hex hnull).trans (Nat.lt_succ_iff.mp hi)
  have hmarked : (List.range (n + 1)).map (markedEntry s.reqs) ++
        List.replicate (64 - (n + 1)) none =
      (List.range first).map some ++ none :: ((List.range' (first + 1) (n - first)).map
        (markedEntry s.reqs) ++ List.replicate (64 - (n + 1)) none) := by
    have hsplit := range'_split 0 first (n - first)
    rw [← Nat.add_assoc, Nat.add_sub_cancel' hfirst, Nat.zero_add, ← List.range_eq_range',
      ← List.range_eq_range'] at hsplit
    have hbefore : (List.range first).map (markedEntry s.reqs) = (List.range first).map some := by
      apply List.map_congr_left
      intro j hj
      exact if_neg (Nat.find_min hex (List.mem_range.mp hj))
    have hat : markedEntry s.reqs first = none := if_pos (Nat.find_spec hex)
    rw [hsplit, List.map_append, List.map_cons, hbefore, hat, List.append_assoc]
    rfl
  rw [diskProcessBatch_eq s hc, hmarked]
  by_cases hn : n = 0
  · -- nothing is sorted, and the last loop reads entry 0
    subst hn
    have h0 : first = 0 := Nat.le_zero.mp hfirst
    rw [h0]
    rfl
  · rw [sortEntries_null _ hfirst hn]
    rfl

/-- `order` is filled in only for requests with a buffer, while the sort and the last loop run over
all of its first `count` entries: the batch is tolerant exactly when it has nothing to tolerate. -/
theorem toleratesNull_iff (s : BatchState) {count : Nat} (hc : count ≤ 64) :
    ToleratesNull s count ↔ ∀ i < count, (s.reqs i).buffer ≠ 0 := by
  constructor
  · rintro ⟨s', l, hrun, -⟩ i hi hnull
    rw [diskProcessBatch_null hc hi hnull] at hrun
    cases hrun
  · intro hnull
    obtain ⟨s', l, hrun, hexec, hperm, -, -⟩ := diskProcessBatch_stable hc hnull
    have hlen : l.length = count := by
      rw [hperm.length_eq, List.length_range]
    have hall : (List.range count).filter (fun i => (s.reqs i).buffer ≠ 0) = List.range count := by
      rw [List.filter_eq_self]
      intro i hi
      simpa using hnull i (List.mem_range.mp hi)
    refine ⟨s', l, ?_, hexec, ?_, fun i hi h => absurd h (hnull i hi)⟩
    · rw [hlen]
      exact hrun
    · rw [hall]
      exact hperm

/-- The same batch. -/
theorem toleratesNull_iff_sample :
    ToleratesNull (sampleBatch sampleRequests) 3 ↔ ∀ i < 3, (sampleRequests i).buffer ≠ 0 :=
  toleratesNull_iff (sampleBatch sampleRequests) (by decide)

/-- A read without a buffer, before one with. -/
def nullRequests : Nat → DiskBatchRequest
  | 0 => ⟨5, 0, false, .ok⟩
  | _ => ⟨6, 512, false, .ok⟩

/-- The sort compares the second request with the one named by `order[0]`, which nobody wrote. -/
theorem not_toleratesNull : diskProcessBatch (sampleBatch nullRequests) 2 = none ∧
    ¬ ToleratesNull (sampleBatch nullRequests) 2 := by
  have hnone : diskProcessBatch (sampleBatch nullRequests) 2 = none := rfl
  refine ⟨hnone, ?_⟩
  rintro ⟨s', l, hrun, -⟩
  rw [hnone] at hrun
  cases hrun

end NeuroSpark
