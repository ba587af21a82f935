import NeuroSpark.Aio.Order

/-!
# What a completion writes

The array of events is checked when the events are asked for, with a size that is a product in 32
bits; the buffer of a read is checked when the read is handed in, and not again when its sector is
stored. A call is safe exactly when the product is large enough for the events it stores and the
pages of the buffers are still there.
-/

namespace NeuroSpark

/-- What a call of `SYS_IO_GETEVENTS` goes through with. -/
def AioState.served (s : AioState) (handle maxevents events : BitVec 32) : List AioServed :=
  match aioCtxFromHandle s handle with
  | none => []
  | some slot =>
    if maxevents = 0 ∨ s.memory.validateUserPtr events (maxevents * 8) = false then []
    else (aioProcessEvents s slot (AioState.cappedEvents (s.aioContexts slot) maxevents)).2

/-- The stores of the events alone. -/
def eventStores (events : BitVec 32) : List AioServed → List Store
  | [] => []
  | v :: vs => v.eventStore events :: eventStores (events + 8) vs

/-- Each byte of the store is on a page that the task may use now. -/
def Store.Accessible (m : TaskMemory) (store : Store) : Prop :=
  ∀ k < store.data.length,
    m.paging.PageAccessible m.pageDir (pageNo (store.ptr + BitVec.ofNat 32 k))

/-- Each byte of the store is one of the `size` bytes from `ptr` on. -/
def Store.Within (ptr size : BitVec 32) (store : Store) : Prop :=
  ∀ k < store.data.length, ptr.toNat ≤ (store.ptr + BitVec.ofNat 32 k).toNat ∧
    (store.ptr + BitVec.ofNat 32 k).toNat < ptr.toNat + size.toNat

/-- The call writes user memory only, and its events where it was told to. -/
def AioState.WritesValidated (s : AioState) : AioOp → Prop
  | .getevents handle maxevents events =>
    (∀ store ∈ servedStores events (s.served handle maxevents events), store.Accessible s.memory) ∧
      ∀ store ∈ eventStores events (s.served handle maxevents events),
        store.Within events (maxevents * 8)
  | _ => True

lemma mem_servedStores {events : BitVec 32} {vs : List AioServed} {store : Store} :
    store ∈ servedStores events vs ↔
      (∃ v ∈ vs, v.delivered = some store) ∨ store ∈ eventStores events vs := by
  induction vs generalizing events with
  | nil => simp [servedStores, eventStores]
  | cons v vs ih =>
    rw [servedStores, eventStores, List.mem_append, ih, AioServed.stores, List.mem_append,
      List.mem_singleton, List.mem_cons, Option.mem_toList, List.exists_mem_cons_iff]
    exact or_or_or_comm

lemma mem_eventStores {events : BitVec 32} {vs : List AioServed} {store : Store} :
    store ∈ eventStores events vs ↔
      ∃ (i : Nat) (v : AioServed), vs[i]? = some v ∧
        store = v.eventStore (events + BitVec.ofNat 32 (8 * i)) := by
  induction vs generalizing events with
  | nil => simp [eventStores]
  | cons v vs ih =>
    have hnext : ∀ i : Nat, events + 8 + BitVec.ofNat 32 (8 * i) =
        events + BitVec.ofNat 32 (8 * (i + 1)) := by
      intro i
      rw [BitVec.add_assoc, Nat.mul_succ, Nat.add_comm, BitVec.ofNat_add]
      rfl
    rw [eventStores, List.mem_cons, ih]
    constructor
    · rintro (rfl | ⟨i, w, hw, rfl⟩)
      · exact ⟨0, v, rfl, by simp⟩
      · exact ⟨i + 1, w, hw, by rw [hnext]⟩
    · rintro ⟨i, w, hw, rfl⟩
      cases i with
      | zero =>
        cases hw
        exact Or.inl (by simp)
      | succ i => exact Or.inr ⟨i, w, hw, by rw [hnext]⟩

section Events

variable {events size : BitVec 32}

lemma toNat_add_ofNat {a : BitVec 32} {k : Nat} (h : a.toNat + k < 2 ^ 32) :
    (a + BitVec.ofNat 32 k).toNat = a.toNat + k := by
  rw [BitVec.toNat_add, BitVec.toNat_ofNat]
  omega

lemma toNat_eventByte {i k : Nat} (h : events.toNat + (8 * i + k) < 2 ^ 32) :
    (events + BitVec.ofNat 32 (8 * i) + BitVec.ofNat 32 k).toNat = events.toNat + (8 * i + k) := by
  rw [BitVec.add_assoc, ← BitVec.ofNat_add, toNat_add_ofNat h]

lemma eventStores_within_iff (hrange : isUserRange events size = true) (vs : List AioServed) :
    (∀ store ∈ eventStores events vs, store.Within events size) ↔ 8 * vs.length ≤ size.toNat := by
  obtain ⟨hsize, hmin, hmax⟩ := (isUserRange_iff events size).1 hrange
  constructor
  · intro h
    by_contra hlt
    -- the first byte behind the range belongs to an event
    have hi : size.toNat / 8 < vs.length := by omega
    have hwithin := h _ (mem_eventStores.2 ⟨size.toNat / 8, _, List.getElem?_eq_getElem hi, rfl⟩)
      (size.toNat % 8) (Nat.mod_lt _ (by omega))
    have hbyte : (events + BitVec.ofNat 32 (8 * (size.toNat / 8)) +
        BitVec.ofNat 32 (size.toNat % 8)).toNat = events.toNat + size.toNat := by
      rw [toNat_eventByte (by omega)]
      omega
    exact absurd hwithin.2 (by rw [AioServed.eventStore, hbyte]; omega)
  · rintro hle store hstore k hk
    obtain ⟨i, v, hv, rfl⟩ := mem_eventStores.1 hstore
    have hi : i < vs.length := (List.getElem?_eq_some_iff.1 hv).1
    have hk : k < 8 := hk
    rw [AioServed.eventStore, toNat_eventByte (by omega)]
    omega

lemma Store.Within.accessible {m : TaskMemory} {store : Store} (h : store.Within events size)
    (hvalid : m.validateUserPtr events size = true) : store.Accessible m := by
  rw [TaskMemory.validateUserPtr] at hvalid
  split_ifs at hvalid
  intro k hk
  exact ((isUserRangeAccessible_eq ..).1 hvalid).1.pages _ (h k hk).1 (h k hk).2

end Events

/-- The pages of the first and the last byte of a buffer of 512 bytes are there. -/
def BufferMapped (m : TaskMemory) (buf : BitVec 32) : Prop :=
  (m.userPte (pageNo buf)).isSome = true ∧ (m.userPte (pageNo (buf + 511))).isSome = true

instance (m : TaskMemory) (buf : BitVec 32) : Decidable (BufferMapped m buf) :=
  inferInstanceAs (Decidable (_ ∧ _))

lemma accessible_iff_bufferMapped {m : TaskMemory} {buf : BitVec 32} {data : List (BitVec 8)}
    (hdir : m.pageDir &&& pageMask ≠ 0) (hlength : data.length = 512)
    (hfits : buf.toNat + 511 < 2 ^ 32) :
    Store.Accessible m ⟨buf, data⟩ ↔ BufferMapped m buf := by
  have hpage : ∀ k < 512, pageNo (buf + BitVec.ofNat 32 k) = (buf.toNat + k) / pageSize := by
    intro k hk
    rw [pageNo, toNat_add_ofNat (by omega)]
  have hfirst : pageNo buf = (buf.toNat + 0) / pageSize := rfl
  have hlast : pageNo (buf + 511) = (buf.toNat + 511) / pageSize := hpage 511 (by omega)
  unfold Store.Accessible Paging.PageAccessible BufferMapped
  rw [hfirst, hlast]
  constructor
  · intro h
    have h0 := (h 0 (hlength ▸ (by decide : 0 < 512))).2
    have h511 := (h 511 (hlength ▸ (by decide : 511 < 512))).2
    rw [hpage _ (by omega)] at h0 h511
    exact ⟨h0, h511⟩
  · rintro ⟨h0, h511⟩ k hk
    have hk : k < 512 := hlength ▸ hk
    refine ⟨hdir, ?_⟩
    rw [hpage k hk]
    -- 512 bytes lie on at most two pages
    have hcases : (buf.toNat + k) / pageSize = (buf.toNat + 0) / pageSize ∨
        (buf.toNat + k) / pageSize = (buf.toNat + 511) / pageSize := by
      unfold pageSize
      omega
    rcases hcases with hcase | hcase
    · rw [hcase]
      exact h0
    · rw [hcase]
      exact h511

/-- A sector will be delivered for the request. -/
def NsAioReq.Delivers (req : NsAioReq) (dev : Device) : Prop :=
  req.opcode = aioOpRead ∧ dev.readFault (dev.sectorOf req.lba.toNat) = false

instance (req : NsAioReq) (dev : Device) : Decidable (req.Delivers dev) :=
  inferInstanceAs (Decidable (_ ∧ _))

/-- The requests to be finished are so few that the size of their events does not overflow, and the
buffers of those reads among them that the disk can serve are still mapped. -/
def AioState.CompletesSafely (s : AioState) (slot : Fin 4) (maxevents : BitVec 32) : Prop :=
  let ctx := s.aioContexts slot
  let n := aioToProcess ctx (AioState.cappedEvents ctx maxevents)
  n ≤ maxevents.toNat % 2 ^ 29 ∧
    ∀ i < n, (ctx.reqs i).Delivers s.dev → BufferMapped s.memory (ctx.reqs i).userBuf

instance (s : AioState) (slot : Fin 4) (maxevents : BitVec 32) :
    Decidable (s.CompletesSafely slot maxevents) :=
  inferInstanceAs (Decidable (_ ∧ ∀ i < aioToProcess (s.aioContexts slot)
    (AioState.cappedEvents (s.aioContexts slot) maxevents), _ → _))

/-- A call for events that is not refused completes safely. -/
def AioState.Careful (s : AioState) : AioOp → Prop
  | .getevents handle maxevents events =>
    ∀ slot, aioCtxFromHandle s handle = some slot → maxevents ≠ 0 →
      s.memory.validateUserPtr events (maxevents * 8) = true → s.CompletesSafely slot maxevents
  | _ => True

instance (s : AioState) : ∀ op, Decidable (s.Careful op)
  | .getevents _ _ _ => inferInstanceAs (Decidable (∀ _, _ → _ → _ → _))
  | .setup _ _ | .submit _ _ _ | .munmap _ _ | .brk _ | .exit | .resume _ _
  | .disk _ _ => isTrue trivial

lemma length_sectorBytes (data : Sector) : (sectorBytes data).length = 512 := by
  rw [sectorBytes, List.length_map, List.length_range]

section Delivery

variable {req : NsAioReq} {dev : Device}

lemma NsAioReq.Sound.delivered_of_delivers (hreq : req.Sound) (h : req.Delivers dev)
    (readErrors : Nat → DiskIoError) :
    ∃ data : List (BitVec 8), data.length = 512 ∧
      (req.servedOn readErrors dev).delivered = some ⟨req.userBuf, data⟩ := by
  obtain ⟨hop, hfault⟩ := h
  have hbytes : req.nbytes.toNat = 512 := by
    rw [hreq.nbytes]
    rfl
  refine ⟨(sectorBytes (dev.contents req.lba.toNat)).take 512, ?_, ?_⟩
  · rw [List.length_take, length_sectorBytes]
    rfl
  · simp [NsAioReq.servedOn, hop, diskReadSectorUncached, hfault, hbytes]

lemma NsAioReq.Sound.delivered_of_not_delivers (hreq : req.Sound) (h : ¬ req.Delivers dev)
    (readErrors : Nat → DiskIoError) :
    (req.servedOn readErrors dev).delivered = none := by
  rcases hreq.opcode with hop | hop
  · have hfault : dev.readFault (dev.sectorOf req.lba.toNat) = true := by
      by_contra hfault
      exact h ⟨hop, by simpa using hfault⟩
    simp [NsAioReq.servedOn, hop, diskReadSectorUncached, hfault]
  · simp [NsAioReq.servedOn, hop]

end Delivery

section Call

variable {s : AioState} {slot : Fin 4} {handle maxevents events : BitVec 32}

lemma AioState.Sound.served_eq (hs : s.Sound) (hslot : aioCtxFromHandle s handle = some slot)
    (hmax : maxevents ≠ 0) (hvalid : s.memory.validateUserPtr events (maxevents * 8) = true) :
    ∃ l : List Nat, s.served handle maxevents events =
      (List.range (aioToProcess (s.aioContexts slot)
        (AioState.cappedEvents (s.aioContexts slot) maxevents))).map fun i =>
          ((s.aioContexts slot).reqs i).servedOn s.readErrors
            (deviceAfter s.dev (s.aioContexts slot).reqs (l.take (l.idxOf i))) := by
  obtain ⟨ctx', stats, l, -, hrun⟩ := aioProcessEvents_any
    (AioState.cappedEvents (s.aioContexts slot) maxevents) (hs slot).count_le
    fun i hi => ((hs slot).reqs i hi).opcode
  have hgo : ¬ (maxevents = 0 ∨ s.memory.validateUserPtr events (maxevents * 8) = false) := by
    rw [hvalid]
    exact not_or.mpr ⟨hmax, Bool.true_eq_false_eq_False⟩
  exact ⟨l, by simp only [AioState.served, hslot, if_neg hgo, hrun]⟩

lemma AioState.served_of_refused (s : AioState) (handle maxevents events : BitVec 32)
    (h : ∀ slot, aioCtxFromHandle s handle = some slot → maxevents ≠ 0 →
      s.memory.validateUserPtr events (maxevents * 8) ≠ true) :
    s.served handle maxevents events = [] := by
  unfold AioState.served
  cases hslot : aioCtxFromHandle s handle with
  | none => rfl
  | some slot =>
    dsimp only
    rw [if_pos]
    by_cases hmax : maxevents = 0
    · exact Or.inl hmax
    · exact Or.inr (Bool.eq_false_of_not_eq_true (h slot hslot hmax))

lemma toNat_mul_eight (maxevents : BitVec 32) :
    (maxevents * 8).toNat = 8 * (maxevents.toNat % 2 ^ 29) := by
  change maxevents.toNat * 8 % 2 ^ 32 = _
  omega

lemma NsAioContext.Sound.delivered_accessible_iff {ctx : NsAioContext} (hctx : ctx.Sound) {n : Nat}
    (hn : n ≤ ctx.reqCount) {m : TaskMemory} (hdir : m.pageDir &&& pageMask ≠ 0) (dev : Device)
    (readErrors : Nat → DiskIoError) (ls : Nat → List Nat) :
    (∀ v ∈ (List.range n).map fun i =>
          (ctx.reqs i).servedOn readErrors (deviceAfter dev ctx.reqs (ls i)),
        ∀ store, v.delivered = some store → store.Accessible m) ↔
      ∀ i < n, (ctx.reqs i).Delivers dev → BufferMapped m (ctx.reqs i).userBuf := by
  have hfault : ∀ i, (ctx.reqs i).Delivers (deviceAfter dev ctx.reqs (ls i)) ↔
      (ctx.reqs i).Delivers dev := by
    intro i
    obtain ⟨hbackend, hreads⟩ := deviceAfter_faults dev ctx.reqs (ls i)
    rw [NsAioReq.Delivers, Device.sectorOf, hbackend, hreads]
    rfl
  constructor
  · intro h i hi hdelivers
    have hreq := hctx.reqs i (hi.trans_le hn)
    obtain ⟨data, hlength, hdelivered⟩ :=
      hreq.delivered_of_delivers ((hfault i).2 hdelivers) readErrors
    rw [← accessible_iff_bufferMapped hdir hlength hreq.fits]
    exact h _ (List.mem_map_of_mem (List.mem_range.mpr hi)) _ hdelivered
  · intro h v hv store hstore
    obtain ⟨i, hi, rfl⟩ := List.mem_map.mp hv
    have hi := List.mem_range.mp hi
    have hreq := hctx.reqs i (hi.trans_le hn)
    by_cases hdelivers : (ctx.reqs i).Delivers dev
    · obtain ⟨data, hlength, hdelivered⟩ :=
        hreq.delivered_of_delivers ((hfault i).2 hdelivers) readErrors
      rw [hdelivered] at hstore
      cases hstore
      exact (accessible_iff_bufferMapped hdir hlength hreq.fits).2 (h i hi hdelivers)
    · rw [hreq.delivered_of_not_delivers (mt (hfault i).1 hdelivers) readErrors] at hstore
      cases hstore

/-- A call that is not refused is safe exactly when it completes safely. -/
lemma AioState.Sound.writesValidated_iff (hs : s.Sound)
    (hslot : aioCtxFromHandle s handle = some slot) (hmax : maxevents ≠ 0)
    (hvalid : s.memory.validateUserPtr events (maxevents * 8) = true) :
    s.WritesValidated (.getevents handle maxevents events) ↔ s.CompletesSafely slot maxevents := by
  set ctx := s.aioContexts slot with hctx
  set n := aioToProcess ctx (AioState.cappedEvents ctx maxevents) with hn
  obtain ⟨l, hserved⟩ := hs.served_eq hslot hmax hvalid
  have hlength : (s.served handle maxevents events).length = n := by
    rw [hserved, List.length_map, List.length_range]
  have hchecked := hvalid
  rw [TaskMemory.validateUserPtr] at hchecked
  split_ifs at hchecked
  obtain ⟨hrange, hpages⟩ := (isUserRangeAccessible_iff ..).1 hchecked
  have hdir : s.memory.pageDir &&& pageMask ≠ 0 := by
    refine (hpages _ le_rfl ?_).1
    exact Nat.div_le_div_right (by omega)
  have hevents : (∀ store ∈ eventStores events (s.served handle maxevents events),
      store.Within events (maxevents * 8)) ↔ n ≤ maxevents.toNat % 2 ^ 29 := by
    rw [eventStores_within_iff hrange, hlength, toNat_mul_eight]
    omega
  have hle : n ≤ ctx.reqCount := min_le_left ..
  have hdelivered := (hs slot).delivered_accessible_iff hle hdir s.dev s.readErrors
    fun i => l.take (l.idxOf i)
  rw [← hctx, ← hserved] at hdelivered
  unfold AioState.WritesValidated AioState.CompletesSafely
  dsimp only
  rw [← hctx, ← hn, ← hdelivered, ← hevents]
  constructor
  · rintro ⟨haccessible, hwithin⟩
    exact ⟨hwithin, fun v hv store hstore =>
      haccessible store (mem_servedStores.2 (Or.inl ⟨v, hv, hstore⟩))⟩
  · rintro ⟨hwithin, haccessible⟩
    refine ⟨fun store hstore => ?_, hwithin⟩
    rcases mem_servedStores.1 hstore with ⟨v, hv, hdelivered⟩ | hevent
    · exact haccessible v hv store hdelivered
    · exact (hwithin store hevent).accessible hvalid

/-- Over any run: the completions write validated memory only exactly when they are all careful. -/
theorem AioState.runs_writesValidated_iff (hs : s.Sound) (ops : List AioOp) :
    Machine.Runs AioState.WritesValidated AioState.step s ops ↔
      Machine.Runs AioState.Careful AioState.step s ops := by
  refine Machine.runs_congr (I := AioState.Sound) (fun s op hs _ => hs.step op)
    (fun s op hs => ?_) hs ops
  cases op with
  | getevents handle maxevents events =>
    by_cases hgo : ∃ slot, aioCtxFromHandle s handle = some slot ∧ maxevents ≠ 0 ∧
        s.memory.validateUserPtr events (maxevents * 8) = true
    · obtain ⟨slot, hslot, hmax, hvalid⟩ := hgo
      rw [hs.writesValidated_iff hslot hmax hvalid]
      refine ⟨fun h slot' hslot' _ _ => ?_, fun h => h slot hslot hmax hvalid⟩
      rw [hslot] at hslot'
      cases hslot'
      exact h
    · have hnone := s.served_of_refused handle maxevents events fun slot hslot hmax hvalid =>
        hgo ⟨slot, hslot, hmax, hvalid⟩
      constructor
      · intro _ slot hslot hmax hvalid
        exact absurd ⟨slot, hslot, hmax, hvalid⟩ hgo
      · intro _
        simp [AioState.WritesValidated, hnone, servedStores, eventStores]
  | setup | submit | munmap | brk | exit | resume | disk => exact Iff.rfl

end Call

/-- Two ways to go wrong: 0x20000001 events have a size of 8 in 32 bits, and two are stored; and the
buffer of the read is unmapped before its sector is stored. -/
theorem AioState.writes_not_validated :
    sampleAio.Sound ∧
      ¬ Machine.Runs AioState.WritesValidated AioState.step sampleAio
        [sampleSubmit, .getevents 1 0x20000001 0x40000400] ∧
      ¬ Machine.Runs AioState.WritesValidated AioState.step sampleAio
        [sampleSubmit, .munmap 0x50000000 0x1000, .getevents 1 2 0x40000400] := by
  have hsubmitted := sampleAio_reliable.sound.step sampleSubmit
  refine ⟨sampleAio_reliable.sound, ?_, ?_⟩
  · rintro ⟨-, hvalidated, -⟩
    have hslot : aioCtxFromHandle (sampleAio.step sampleSubmit).1 1 = some 0 := by decide
    rw [hsubmitted.writesValidated_iff hslot (by decide) (by decide)] at hvalidated
    revert hvalidated
    decide
  · rintro ⟨-, -, hvalidated, -⟩
    have hslot : aioCtxFromHandle
        ((sampleAio.step sampleSubmit).1.step (.munmap 0x50000000 0x1000)).1 1 = some 0 := by
      decide
    rw [(hsubmitted.step _).writesValidated_iff hslot (by decide) (by decide)] at hvalidated
    revert hvalidated
    decide

/-- The sample run is careful. -/
theorem AioState.runs_writesValidated_iff_sample :
    sampleAio.Sound ∧ (Machine.Runs AioState.WritesValidated AioState.step sampleAio
        [sampleSubmit, .getevents 1 4 0x40000400] ↔
      Machine.Runs AioState.Careful AioState.step sampleAio
        [sampleSubmit, .getevents 1 4 0x40000400]) ∧
      Machine.Runs AioState.Careful AioState.step sampleAio
        [sampleSubmit, .getevents 1 4 0x40000400] := by
  refine ⟨sampleAio_reliable.sound,
    AioState.runs_writesValidated_iff sampleAio_reliable.sound _, ?_⟩
  decide

end NeuroSpark
