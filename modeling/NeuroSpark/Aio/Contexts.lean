import NeuroSpark.Aio.Completion

/-!
# The contexts in every state

A context never has more than 64 requests, and each of them is a read or a write of one sector with
a buffer in user memory.
-/

namespace NeuroSpark

variable {s : AioState} {ctx : NsAioContext}

structure NsAioReq.Sound (req : NsAioReq) : Prop where
  opcode : req.opcode = aioOpRead ∨ req.opcode = aioOpWrite
  nbytes : req.nbytes = 512
  fits : req.userBuf.toNat + 511 < 2 ^ 32

structure NsAioContext.Sound (ctx : NsAioContext) : Prop where
  count_le : ctx.reqCount ≤ 64
  reqs : ∀ i < ctx.reqCount, (ctx.reqs i).Sound

def AioState.Sound (s : AioState) : Prop := ∀ slot, (s.aioContexts slot).Sound

lemma NsAioContext.sound_of_empty (h : ctx.reqCount = 0) : ctx.Sound := by
  constructor
  · omega
  · omega

lemma NsAioContext.Sound.drops {ctx ctx' : NsAioContext} (h : ctx.Sound) {n : Nat}
    (hdrops : ctx.Drops n ctx') :
    ctx'.Sound := by
  have hcount := hdrops.reqCount
  constructor
  · exact hcount ▸ (Nat.sub_le _ _).trans h.count_le
  · intro i hi
    rw [hdrops.reqs i (by omega)]
    exact h.reqs _ (by omega)

lemma AioState.Sound.setContext (h : s.Sound) (hctx : ctx.Sound)
    (slot : Fin 4) : (s.setContext slot ctx).Sound := by
  intro i
  by_cases hi : i = slot
  · subst hi
    simpa using hctx
  · simpa [hi] using h i

/-! ### Submission -/

/-- A control block that is accepted as long as there is room. -/
def NsIoCb.Acceptable (m : TaskMemory) (cb : NsIoCb) : Prop :=
  (cb.opcode = aioOpRead ∨ cb.opcode = aioOpWrite) ∧ cb.nbytes = 512 ∧
    m.validateUserPtr cb.buf cb.nbytes = true

instance (m : TaskMemory) (cb : NsIoCb) : Decidable (cb.Acceptable m) :=
  inferInstanceAs (Decidable (_ ∧ _))

/-- The request for a control block, in place of `old`. -/
def NsIoCb.req (m : TaskMemory) (cb : NsIoCb) (old : NsAioReq) : NsAioReq :=
  ⟨true, cb.opcode, cb.lba, cb.buf, cb.nbytes, cb.userData, errWouldBlock,
    if cb.opcode = aioOpWrite then m.loadSector cb.buf else old.sector⟩

def NsAioContext.push (ctx : NsAioContext) (req : NsAioReq) : NsAioContext :=
  { ctx with reqs := Function.update ctx.reqs ctx.reqCount req, reqCount := ctx.reqCount + 1 }

@[simp] lemma NsAioContext.push_reqCount (ctx : NsAioContext) (req : NsAioReq) :
    (ctx.push req).reqCount = ctx.reqCount + 1 := rfl

lemma NsAioContext.push_reqs_last (ctx : NsAioContext) (req : NsAioReq) :
    (ctx.push req).reqs ctx.reqCount = req := Function.update_self ..

lemma NsAioContext.push_reqs_of_lt (ctx : NsAioContext) (req : NsAioReq) {i : Nat}
    (hi : i < ctx.reqCount) :
    (ctx.push req).reqs i = ctx.reqs i := Function.update_of_ne hi.ne _ _

lemma aioSubmitOne_eq (m : TaskMemory) (ctx : NsAioContext) (cb : NsIoCb) :
    aioSubmitOne m ctx cb =
      if ctx.reqCount < 64 ∧ cb.Acceptable m then some (ctx.push (cb.req m (ctx.reqs ctx.reqCount)))
      else none := by
  have hmax : aioMaxReq.toNat = 64 := rfl
  unfold aioSubmitOne NsIoCb.Acceptable
  by_cases hroom : ctx.reqCount < 64
  · rw [hmax, if_neg (by omega)]
    by_cases hop : cb.opcode = aioOpRead ∨ cb.opcode = aioOpWrite
    · by_cases hnbytes : cb.nbytes = 512
      · rw [if_neg (by tauto)]
        by_cases hvalid : m.validateUserPtr cb.buf cb.nbytes = true
        · rw [if_neg (by simp [hvalid]), if_pos ⟨hroom, hop, hnbytes, hvalid⟩]
          rfl
        · rw [if_pos (by simpa using hvalid), if_neg (by tauto)]
      · rw [if_pos (Or.inr hnbytes), if_neg (by tauto)]
    · rw [if_pos (Or.inl (by tauto)), if_neg (by tauto)]
  · rw [hmax, if_pos (by omega), if_neg (by tauto)]

lemma NsIoCb.Acceptable.fits {m : TaskMemory} {cb : NsIoCb} (h : cb.Acceptable m) :
    cb.buf.toNat + 511 < 2 ^ 32 := by
  obtain ⟨-, hnbytes, hvalid⟩ := h
  rw [hnbytes, TaskMemory.validateUserPtr] at hvalid
  split_ifs at hvalid
  exact ((isUserRangeAccessible_eq ..).1 hvalid).1.noWrap

lemma NsIoCb.Acceptable.sound {m : TaskMemory} {cb : NsIoCb} (h : cb.Acceptable m)
    (old : NsAioReq) :
    (cb.req m old).Sound := ⟨h.1, h.2.1, h.fits⟩

lemma NsAioContext.Sound.push (h : ctx.Sound) (hroom : ctx.reqCount < 64) {req : NsAioReq}
    (hreq : req.Sound) : (ctx.push req).Sound := by
  constructor
  · exact hroom
  · intro i hi
    rcases Nat.lt_succ_iff_lt_or_eq.mp hi with hlt | rfl
    · rw [ctx.push_reqs_of_lt req hlt]
      exact h.reqs i hlt
    · rwa [ctx.push_reqs_last]

/-- The control blocks that are accepted when there is room for `room` of them. -/
def acceptedCbs (m : TaskMemory) (room : Nat) (cbs : List NsIoCb) : List NsIoCb :=
  (cbs.take room).takeWhile fun cb => decide (cb.Acceptable m)

lemma acceptedCbs_cons (m : TaskMemory) (room : Nat) (cb : NsIoCb) (cbs : List NsIoCb) :
    acceptedCbs m room (cb :: cbs) =
      if 0 < room ∧ cb.Acceptable m then cb :: acceptedCbs m (room - 1) cbs else [] := by
  cases room with
  | zero => rfl
  | succ room =>
    by_cases h : cb.Acceptable m <;> simp [h, acceptedCbs]

lemma aioSubmitAll_cons (m : TaskMemory) (ctx : NsAioContext) (cb : NsIoCb) (cbs : List NsIoCb) :
    aioSubmitAll m ctx (cb :: cbs) =
      if 0 < 64 - ctx.reqCount ∧ cb.Acceptable m then
        ((aioSubmitAll m (ctx.push (cb.req m (ctx.reqs ctx.reqCount))) cbs).1,
          (aioSubmitAll m (ctx.push (cb.req m (ctx.reqs ctx.reqCount))) cbs).2 + 1)
      else (ctx, 0) := by
  rw [aioSubmitAll, aioSubmitOne_eq]
  simp only [Nat.sub_pos_iff_lt]
  split_ifs <;> rfl

lemma aioSubmitAll_count (m : TaskMemory) (ctx : NsAioContext) (cbs : List NsIoCb) :
    (aioSubmitAll m ctx cbs).2 = (acceptedCbs m (64 - ctx.reqCount) cbs).length := by
  induction cbs generalizing ctx with
  | nil => simp [aioSubmitAll, acceptedCbs]
  | cons cb cbs ih =>
    rw [aioSubmitAll_cons, acceptedCbs_cons]
    split_ifs
    · rw [ih, List.length_cons, NsAioContext.push_reqCount, Nat.sub_add_eq]
    · rfl

lemma acceptedCbs_initial (m : TaskMemory) (room : Nat) (cbs : List NsIoCb) :
    acceptedCbs m room cbs <+: cbs :=
  (List.takeWhile_prefix _).trans (List.take_prefix ..)

lemma NsAioContext.Sound.submitAll (h : ctx.Sound) (m : TaskMemory) (cbs : List NsIoCb) :
    (aioSubmitAll m ctx cbs).1.Sound := by
  induction cbs generalizing ctx with
  | nil => exact h
  | cons cb cbs ih =>
    rw [aioSubmitAll_cons]
    split_ifs with hcb
    · exact ih (h.push (by omega) (hcb.2.sound _))
    · exact h

/-! ### Calls -/

lemma aioCtxFromHandle_spec {handle : BitVec 32} {slot : Fin 4}
    (h : aioCtxFromHandle s handle = some slot) : aioCtxHandleToSlot handle = some slot ∧
      (s.aioContexts slot).OwnedBy s.osCurrentTask := by
  unfold aioCtxFromHandle at h
  cases hslot : aioCtxHandleToSlot handle with
  | none => simp [hslot] at h
  | some i =>
    simp only [hslot] at h
    split_ifs at h with hrefused
    cases h
    rw [not_or, Bool.not_eq_false, not_not] at hrefused
    exact ⟨rfl, hrefused⟩

lemma AioState.setup_eq {maxevents ctxOut : BitVec 32}
    (h : ¬ ((maxevents = 0 ∨ aioMaxReq < maxevents) ∨ s.memory.validateUserPtr ctxOut 4 = false)) :
    s.setup maxevents ctxOut =
      match (List.finRange 4).find? fun i => !(s.aioContexts i).used with
      | none => (s, .code errNoSpace)
      | some i =>
        ({ s.setContext i ((s.aioContexts i).given s.osCurrentTask maxevents) with
            memory := s.memory.storeBytes ctxOut (wordBytes (BitVec.ofNat 32 (i + 1))) },
          .code okWord) := by
  rw [AioState.setup, if_neg h, AioState.allocContext]
  cases (List.finRange 4).find? fun i => !(s.aioContexts i).used with
  | none => rfl
  | some i =>
    have hhandle : BitVec.ofNat 32 (i + 1) ≠ 0 := by
      revert i
      decide
    exact if_neg hhandle

lemma AioState.dev_setup (s : AioState) (maxevents ctxOut : BitVec 32) :
    (s.setup maxevents ctxOut).1.dev = s.dev := by
  by_cases hrefused : (maxevents = 0 ∨ aioMaxReq < maxevents) ∨
      s.memory.validateUserPtr ctxOut 4 = false
  · rw [AioState.setup, if_pos hrefused]
  · rw [AioState.setup_eq hrefused]
    cases (List.finRange 4).find? fun i => !(s.aioContexts i).used <;> rfl

lemma AioState.dev_submit (s : AioState) (handle nr iocb : BitVec 32) :
    (s.submit handle nr iocb).1.dev = s.dev := by
  unfold AioState.submit
  cases aioCtxFromHandle s handle with
  | none => rfl
  | some slot =>
    split_ifs <;> rfl

lemma AioState.Sound.setup (hs : s.Sound) (maxevents ctxOut : BitVec 32) :
    (s.setup maxevents ctxOut).1.Sound := by
  by_cases hrefused : (maxevents = 0 ∨ aioMaxReq < maxevents) ∨
      s.memory.validateUserPtr ctxOut 4 = false
  · rwa [AioState.setup, if_pos hrefused]
  · rw [AioState.setup_eq hrefused]
    cases (List.finRange 4).find? fun i => !(s.aioContexts i).used with
    | none => exact hs
    | some i => exact hs.setContext (NsAioContext.sound_of_empty rfl) i

lemma AioState.Sound.submit (hs : s.Sound) (handle nr iocb : BitVec 32) :
    (s.submit handle nr iocb).1.Sound := by
  unfold AioState.submit
  cases aioCtxFromHandle s handle with
  | none => exact hs
  | some slot =>
    dsimp only
    split_ifs
    · exact hs
    · exact hs.setContext ((hs slot).submitAll ..) slot
    · exact hs.setContext ((hs slot).submitAll ..) slot

lemma AioState.Sound.processEvents (hs : s.Sound) (slot : Fin 4) (maxevents : BitVec 32) :
    (aioProcessEvents s slot maxevents).1.Sound := by
  obtain ⟨ctx', stats, l, hdrops, hrun⟩ :=
    aioProcessEvents_any maxevents (hs slot).count_le
      fun i hi => ((hs slot).reqs i hi).opcode
  rw [hrun]
  exact hs.setContext ((hs slot).drops hdrops) slot

lemma AioState.Sound.getevents (hs : s.Sound) (handle maxevents events : BitVec 32) :
    (s.getevents handle maxevents events).1.Sound := by
  unfold AioState.getevents
  cases aioCtxFromHandle s handle with
  | none => exact hs
  | some slot =>
    split_ifs
    · exact hs
    · exact hs.processEvents slot _

lemma AioState.Sound.close (hs : s.Sound) (task : Fin 8) : (s.closeAllForTask task).Sound := by
  intro slot
  unfold AioState.closeAllForTask
  dsimp only
  split_ifs
  · exact NsAioContext.sound_of_empty rfl
  · exact hs slot

/-- The contexts stay sound, whatever happens to memory and to the disk. -/
theorem AioState.Sound.step (hs : s.Sound) (op : AioOp) : (s.step op).1.Sound := by
  cases op with
  | setup maxevents ctxOut => exact hs.setup maxevents ctxOut
  | submit handle nr iocb => exact hs.submit handle nr iocb
  | getevents handle maxevents events => exact hs.getevents handle maxevents events
  | exit => exact hs.close _
  | munmap | brk | resume | disk => exact hs

end NeuroSpark
