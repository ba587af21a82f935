import NeuroSpark.Lib.RingBuffer
import NeuroSpark.Vfs.Backends

/-!
# Pipes

A pipe is a ring buffer of 1024 bytes. Whatever calls its two handles receive, the bytes that come
out of it are the bytes that went in, in order.

`vfs_pipe` never makes one: it reserves the descriptor of the reading end with `-2`, and
`alloc_task_fd` takes every negative entry for free.
-/

namespace NeuroSpark

variable {β σ : Type}

/-! ### The ring of a pipe -/

/-- The head, the tail and the count of a pipe fit together. -/
structure VfsPipe.Ring (p : VfsPipe) : Prop where
  head : p.head < 1024
  tail : p.tail < 1024
  count : p.count ≤ 1024
  tail_eq : p.tail = (p.head + p.count) % 1024

/-- The bytes that wait in a pipe, oldest first. -/
def VfsPipe.buffered (p : VfsPipe) : List UInt8 :=
  (List.range p.count).map fun k => p.data.get ((p.head + k) % 1024)

/-- The pipe after its oldest byte was read. -/
def VfsPipe.take (p : VfsPipe) : VfsPipe :=
  { p with head := (p.head + 1) % 1024, count := p.count - 1 }

/-- The pipe after a byte was added to it. -/
def VfsPipe.put (p : VfsPipe) (b : UInt8) : VfsPipe :=
  { p with data := p.data.patch p.tail [b], tail := (p.tail + 1) % 1024, count := p.count + 1 }

namespace VfsPipe.Ring

variable {p : VfsPipe}

def toRingBuffer (h : p.Ring) : RingBuffer UInt8 1024 where
  slots := p.data
  head := ⟨p.head, h.head⟩
  tail := ⟨p.tail, h.tail⟩
  count := p.count
  count_le := h.count
  tail_eq := h.tail_eq

lemma toList_toRingBuffer (h : p.Ring) : h.toRingBuffer.toList = p.buffered := by
  apply List.map_congr_left
  intro k _
  have hk : (p.head + k) % 1024 < 1024 := Nat.mod_lt _ (by decide)
  rw [Bytes.get, dif_pos hk]
  rfl

lemma take (h : p.Ring) (hpos : 0 < p.count) :
    p.take.Ring ∧ p.buffered = p.data.get p.head :: p.take.buffered := by
  set r := h.toRingBuffer.pop (p.data ⟨p.head, h.head⟩) hpos with hr
  have hring : p.take.Ring := by
    refine ⟨Nat.mod_lt _ (by decide), h.tail, ?_, r.tail_eq⟩
    exact (Nat.sub_le _ _).trans h.count
  have hlist : hring.toRingBuffer.toList = r.toList := by
    apply RingBuffer.toList_congr
    · exact (Function.update_eq_self _ _).symm
    · rfl
    · rfl
  refine ⟨hring, ?_⟩
  rw [← toList_toRingBuffer h, ← toList_toRingBuffer hring, hlist, Bytes.get, dif_pos h.head]
  exact h.toRingBuffer.toList_pop _ hpos

lemma put (h : p.Ring) (b : UInt8) (hroom : p.count < 1024) :
    (p.put b).Ring ∧ (p.put b).buffered = p.buffered ++ [b] := by
  set r := h.toRingBuffer.push b hroom with hr
  have hring : (p.put b).Ring := ⟨h.head, Nat.mod_lt _ (by decide), hroom, r.tail_eq⟩
  have hslots : p.data.patch p.tail [b] = Function.update p.data ⟨p.tail, h.tail⟩ b := by
    apply Bytes.ext_get
    intro k hk
    rcases Nat.lt_trichotomy k p.tail with hlt | rfl | hgt
    · have hne : (⟨k, hk⟩ : Fin 1024) ≠ ⟨p.tail, h.tail⟩ := fun he => hlt.ne (Fin.mk.inj he)
      rw [Bytes.get_patch_of_lt _ _ hlt, Bytes.get, Bytes.get, dif_pos hk, dif_pos hk,
        Function.update_of_ne hne]
    · have hget := Bytes.get_patch_of_mem p.data p.tail 0 [b] (by simp) (by simpa using hk)
      rw [Nat.add_zero] at hget
      rw [hget, Bytes.get, dif_pos hk, Function.update_self]
      rfl
    · have hne : (⟨k, hk⟩ : Fin 1024) ≠ ⟨p.tail, h.tail⟩ := fun he => hgt.ne' (Fin.mk.inj he)
      rw [Bytes.get_patch_of_ge _ _ (by simpa using hgt), Bytes.get, Bytes.get, dif_pos hk,
        dif_pos hk, Function.update_of_ne hne]
  have hlist : hring.toRingBuffer.toList = r.toList := by
    apply RingBuffer.toList_congr
    · exact hslots
    · rfl
    · rfl
  refine ⟨hring, ?_⟩
  rw [← toList_toRingBuffer h, ← toList_toRingBuffer hring, hlist]
  exact h.toRingBuffer.toList_push b hroom

end VfsPipe.Ring

variable {p : VfsPipe}

lemma pipeDrain_spec (size : Nat) (h : p.Ring) (out : List UInt8) : (pipeDrain size p out).1.Ring ∧
      out ++ p.buffered = (pipeDrain size p out).2 ++ (pipeDrain size p out).1.buffered := by
  induction size generalizing p out with
  | zero => exact ⟨h, rfl⟩
  | succ size ih =>
    rw [pipeDrain]
    split_ifs with hpos
    · obtain ⟨hring, hbuf⟩ := h.take hpos
      obtain ⟨hring', hbuf'⟩ := ih hring (out ++ [p.data.get p.head])
      refine ⟨hring', ?_⟩
      rw [hbuf, List.append_cons]
      exact hbuf'
    · exact ⟨h, rfl⟩

lemma pipeFill_cons_of_room (hroom : p.count < 1024) (b : UInt8) (bs : List UInt8)
    (done : Nat) : pipeFill (b :: bs) p done = pipeFill bs (p.put b) (done + 1) := if_pos hroom

lemma pipeFill_cons_of_full (hfull : ¬ p.count < 1024) (b : UInt8) (bs : List UInt8)
    (done : Nat) : pipeFill (b :: bs) p done = (p, done) := if_neg hfull

lemma pipeFill_spec (buf : List UInt8) (h : p.Ring) (done : Nat) :
    (pipeFill buf p done).1.Ring ∧ done ≤ (pipeFill buf p done).2 ∧
      (pipeFill buf p done).1.buffered =
        p.buffered ++ buf.take ((pipeFill buf p done).2 - done) := by
  induction buf generalizing p done with
  | nil => exact ⟨h, Nat.le_refl _, by simp [pipeFill]⟩
  | cons b bs ih =>
    by_cases hroom : p.count < 1024
    · rw [pipeFill_cons_of_room hroom]
      obtain ⟨hring, hbuf⟩ := h.put b hroom
      obtain ⟨hring', hle, hbuf'⟩ := ih hring (done + 1)
      refine ⟨hring', by omega, ?_⟩
      rw [hbuf', hbuf, List.append_assoc]
      generalize (pipeFill bs (p.put b) (done + 1)).2 = n at hle ⊢
      obtain ⟨k, rfl⟩ := Nat.exists_eq_add_of_le hle
      have h₁ : done + 1 + k - (done + 1) = k := by omega
      have h₂ : done + 1 + k - done = k + 1 := by omega
      rw [h₁, h₂, List.take_succ_cons]
      rfl
    · rw [pipeFill_cons_of_full hroom]
      exact ⟨h, Nat.le_refl _, by simp⟩

/-! ### Calls on the handles of a pipe -/

/-- A call of `pipe_read_backend` or of `pipe_write_backend`. -/
inductive PipeOp where
  | read (handle size : Nat)
  | write (handle : Nat) (buf : List UInt8)

/-- The answer of a call is the bytes that it moved. -/
def pipeStep (s : Vfs β σ) : PipeOp → Vfs β σ × Except VfsError (List UInt8)
  | .read handle size => pipeReadBackend s handle size
  | .write handle buf =>
    ((pipeWriteBackend s handle buf).1, (pipeWriteBackend s handle buf).2.map buf.take)

def PipeOp.handle : PipeOp → Nat
  | .read handle _ => handle
  | .write handle _ => handle

def PipeOp.isRead : PipeOp → Bool
  | .read _ _ => true
  | .write _ _ => false

/-- The handle is one of pipe `i`. -/
def Vfs.OnPipe (s : Vfs β σ) (i : Fin 64) (handle : Nat) : Prop :=
  ∃ k, pipeHandle handle = some k ∧ (s.pipeHandles k).used = true ∧
    (s.pipeHandles k).pipeIdx = i

instance (s : Vfs β σ) (i : Fin 64) (handle : Nat) : Decidable (s.OnPipe i handle) :=
  inferInstanceAs (Decidable (∃ _, _))

/-- The bytes that a call moves out of pipe `i` (`dir` set) or into it. -/
def pipeBytes (i : Fin 64) (dir : Bool) (s : Vfs β σ) (o : PipeOp) : List UInt8 :=
  if s.OnPipe i o.handle ∧ o.isRead = dir then ((pipeStep s o).2.toOption).getD [] else []

/-- The bytes that the calls of a run move, one after the other. -/
def pipeStream (i : Fin 64) (dir : Bool) (s : Vfs β σ) : List PipeOp → List UInt8
  | [] => []
  | o :: os => pipeBytes i dir s o ++ pipeStream i dir (pipeStep s o).1 os

/-- What one call does to pipe `i`. -/
structure PipeMoves (i : Fin 64) (s : Vfs β σ) (o : PipeOp) : Prop where
  handles : (pipeStep s o).1.pipeHandles = s.pipeHandles
  ring : ((pipeStep s o).1.pipes i).Ring
  flow : (s.pipes i).buffered ++ pipeBytes i false s o =
    pipeBytes i true s o ++ ((pipeStep s o).1.pipes i).buffered

section

variable {s : Vfs β σ} {i : Fin 64}

lemma Vfs.onPipe_iff {handle : Nat} {k : Fin 128} (hk : pipeHandle handle = some k) :
    s.OnPipe i handle ↔ (s.pipeHandles k).used = true ∧ (s.pipeHandles k).pipeIdx = i := by
  simp [Vfs.OnPipe, hk]

section

variable (h : (s.pipes i).Ring)
include h

lemma PipeMoves.of_idle {o : PipeOp} (hstate : (pipeStep s o).1 = s)
    (hbytes : s.OnPipe i o.handle → ∃ e, (pipeStep s o).2 = .error e) : PipeMoves i s o := by
  have hnone : ∀ dir, pipeBytes i dir s o = [] := by
    intro dir
    unfold pipeBytes
    split_ifs with hon
    · obtain ⟨e, he⟩ := hbytes hon.1
      rw [he]
      rfl
    · rfl
  refine ⟨by rw [hstate], by rw [hstate]; exact h, ?_⟩
  rw [hnone, hnone, hstate, List.append_nil, List.nil_append]

lemma PipeMoves.of_other {o : PipeOp} {j : Fin 64} {p : VfsPipe}
    (hstate : (pipeStep s o).1 = s.setPipe j p) (hij : i ≠ j) (hoff : ¬ s.OnPipe i o.handle) :
    PipeMoves i s o := by
  have hpipe : (pipeStep s o).1.pipes i = s.pipes i := by
    rw [hstate]
    exact Function.update_of_ne hij _ _
  have hnone : ∀ dir, pipeBytes i dir s o = [] := fun dir => if_neg fun hon => hoff hon.1
  refine ⟨by rw [hstate]; rfl, by rw [hpipe]; exact h, ?_⟩
  rw [hnone, hnone, hpipe, List.append_nil, List.nil_append]

lemma pipeStep_read (handle size : Nat) : PipeMoves i s (.read handle size) := by
  cases hk : pipeHandle handle with
  | none =>
    exact .of_idle h (by simp [pipeStep, pipeReadBackend, hk])
      (by simp [Vfs.OnPipe, PipeOp.handle, hk])
  | some k =>
    by_cases hu : (s.pipeHandles k).used = true
    swap
    · refine .of_idle h (by simp [pipeStep, pipeReadBackend, hk, hu]) fun hon => ?_
      exact absurd ((Vfs.onPipe_iff hk).mp hon).1 hu
    by_cases hw : (s.pipeHandles k).writable = true
    · exact .of_idle h (by simp [pipeStep, pipeReadBackend, hk, hu, hw])
        fun _ => ⟨.perm, by simp [pipeStep, pipeReadBackend, hk, hu, hw]⟩
    set j := (s.pipeHandles k).pipeIdx with hj
    set r := pipeDrain size (s.pipes j) [] with hr
    have hstep : pipeStep s (.read handle size) =
        (s.setPipe j r.1, if r.2 = [] ∧ r.1.writeRefs > 0 then .error .wouldBlock else .ok r.2) := by
      simp only [pipeStep, pipeReadBackend, hk, hu, hw, Bool.not_true, Bool.false_eq_true, if_false]
      split_ifs <;> rfl
    by_cases hij : i = j
    · have hon : s.OnPipe i handle := (Vfs.onPipe_iff hk).mpr ⟨hu, hij.symm⟩
      have hpipe : (pipeStep s (.read handle size)).1.pipes i = r.1 := by
        rw [hstep, hij]
        exact Function.update_self _ _ _
      obtain ⟨hring, hflow⟩ := pipeDrain_spec size h []
      rw [hij, ← hr] at hring hflow
      have hout : pipeBytes i true s (.read handle size) = r.2 := by
        rw [pipeBytes, if_pos ⟨hon, rfl⟩, hstep]
        split_ifs with hblock
        · exact hblock.1.symm
        · rfl
      have hin : pipeBytes i false s (.read handle size) = [] := if_neg fun hc => by cases hc.2
      refine ⟨by rw [hstep]; rfl, by rw [hpipe]; exact hring, ?_⟩
      rw [hin, hout, hpipe, List.append_nil, hij]
      exact hflow
    · refine .of_other h (congrArg Prod.fst hstep) hij fun hon => ?_
      exact hij ((Vfs.onPipe_iff hk).mp hon).2.symm

lemma pipeStep_write (handle : Nat) (buf : List UInt8) : PipeMoves i s (.write handle buf) := by
  cases hk : pipeHandle handle with
  | none =>
    exact .of_idle h (by simp [pipeStep, pipeWriteBackend, hk])
      (by simp [Vfs.OnPipe, PipeOp.handle, hk])
  | some k =>
    by_cases hu : (s.pipeHandles k).used = true
    swap
    · refine .of_idle h (by simp [pipeStep, pipeWriteBackend, hk, hu]) fun hon => ?_
      exact absurd ((Vfs.onPipe_iff hk).mp hon).1 hu
    by_cases hw : (s.pipeHandles k).writable = true
    swap
    · exact .of_idle h (by simp [pipeStep, pipeWriteBackend, hk, hu, hw])
        fun _ => ⟨.perm, by simp [pipeStep, pipeWriteBackend, hk, hu, hw]; rfl⟩
    set j := (s.pipeHandles k).pipeIdx with hj
    by_cases hrefs : (s.pipes j).readRefs = 0
    · exact .of_idle h (by simp [pipeStep, pipeWriteBackend, hk, hu, hw, ← hj, hrefs])
        fun _ => ⟨.io, by simp [pipeStep, pipeWriteBackend, hk, hu, hw, ← hj, hrefs]; rfl⟩
    set r := pipeFill buf (s.pipes j) 0 with hr
    have hstep : pipeStep s (.write handle buf) = (s.setPipe j r.1,
        (if r.2 = 0 then .error .wouldBlock else .ok r.2 : VfsResult).map buf.take) := by
      simp only [pipeStep, pipeWriteBackend, hk, hu, hw, ← hj, hrefs, Bool.not_true,
        Bool.false_eq_true, if_false]
      split_ifs <;> rfl
    by_cases hij : i = j
    · have hon : s.OnPipe i handle := (Vfs.onPipe_iff hk).mpr ⟨hu, hij.symm⟩
      have hpipe : (pipeStep s (.write handle buf)).1.pipes i = r.1 := by
        rw [hstep, hij]
        exact Function.update_self _ _ _
      obtain ⟨hring, -, hflow⟩ := pipeFill_spec buf h 0
      rw [hij, ← hr, Nat.sub_zero] at hflow
      rw [hij, ← hr] at hring
      have hin : pipeBytes i false s (.write handle buf) = buf.take r.2 := by
        rw [pipeBytes, if_pos ⟨hon, rfl⟩, hstep]
        split_ifs with hnone
        · rw [hnone]
          rfl
        · rfl
      have hout : pipeBytes i true s (.write handle buf) = [] := if_neg fun hc => by cases hc.2
      refine ⟨by rw [hstep]; rfl, by rw [hpipe]; exact hring, ?_⟩
      rw [hin, hout, hpipe, List.nil_append, hij]
      exact hflow.symm
    · refine .of_other h (congrArg Prod.fst hstep) hij fun hon => ?_
      exact hij ((Vfs.onPipe_iff hk).mp hon).2.symm

lemma pipeStep_moves (o : PipeOp) : PipeMoves i s o := by
  cases o with
  | read handle size => exact pipeStep_read h handle size
  | write handle buf => exact pipeStep_write h handle buf

lemma pipeRun_flow (os : List PipeOp) : ((Machine.run pipeStep s os).pipes i).Ring ∧
      (s.pipes i).buffered ++ pipeStream i false s os =
        pipeStream i true s os ++ ((Machine.run pipeStep s os).pipes i).buffered := by
  induction os generalizing s with
  | nil => exact ⟨h, by simp [pipeStream]⟩
  | cons o os ih =>
    have hstep := pipeStep_moves h o
    obtain ⟨hring, hflow⟩ := ih hstep.ring
    refine ⟨hring, ?_⟩
    simp only [pipeStream, Machine.run_cons]
    rw [← List.append_assoc, hstep.flow, List.append_assoc, hflow, List.append_assoc]

end

lemma pipeCreated_spec {s₀ s₁ s₂ : Vfs β σ} {r w : Fin 128}
    (hslot : vfsPipeAllocSlot s₀ = some (s₁, i)) (hr : vfsPipeHandleAlloc s₁ i false = some (s₂, r))
    (hw : vfsPipeHandleAlloc s₂ i true = some (s, w)) :
    s.pipeHandles r = ⟨true, i, false⟩ ∧ s.pipeHandles w = ⟨true, i, true⟩ ∧
      (s.pipes i).Ring ∧ (s.pipes i).buffered = [] := by
  obtain ⟨-, hrfree, hrused⟩ := vfsPipeHandleAlloc_spec hr
  obtain ⟨-, hwfree, -⟩ := vfsPipeHandleAlloc_spec hw
  have hrw : r ≠ w := by
    rintro rfl
    rw [hrused, if_pos rfl] at hwfree
    cases hwfree
  simp only [vfsPipeAllocSlot, vfsPipeHandleAlloc, Option.map_eq_some_iff,
    Prod.mk.injEq] at hslot hr hw
  obtain ⟨i', -, rfl, rfl⟩ := hslot
  obtain ⟨r', -, rfl, rfl⟩ := hr
  obtain ⟨w', -, rfl, rfl⟩ := hw
  refine ⟨?_, ?_, ?_, ?_⟩
  · simp [Vfs.setPipe, Vfs.setPipeHandle, hrw]
  · simp [Vfs.setPipe, Vfs.setPipeHandle]
  · constructor <;> simp [Vfs.setPipe, Vfs.setPipeHandle, VfsPipe.empty]
  · simp [Vfs.setPipe, Vfs.setPipeHandle, VfsPipe.empty, VfsPipe.buffered]

end

/-- Along every run of reads and writes with any buffers and sizes, the bytes that came out of a
pipe and those that still wait in it are the bytes that went in. -/
theorem pipe_fifo {s₀ s₁ s₂ s : Vfs β σ} {i : Fin 64} {r w : Fin 128}
    (hslot : vfsPipeAllocSlot s₀ = some (s₁, i)) (hr : vfsPipeHandleAlloc s₁ i false = some (s₂, r))
    (hw : vfsPipeHandleAlloc s₂ i true = some (s, w)) (os : List PipeOp) :
    (s.pipeHandles r = ⟨true, i, false⟩ ∧ s.pipeHandles w = ⟨true, i, true⟩) ∧
      pipeStream i true s os ++ ((Machine.run pipeStep s os).pipes i).buffered =
        pipeStream i false s os ∧
      ((Machine.run pipeStep s os).pipes i).Ring := by
  obtain ⟨hread, hwrite, hring, hempty⟩ := pipeCreated_spec hslot hr hw
  obtain ⟨hring', hflow⟩ := pipeRun_flow hring os
  rw [hempty, List.nil_append] at hflow
  exact ⟨⟨hread, hwrite⟩, hflow.symm, hring'⟩

/-- Pipe 0 with handles 0 and 1, made right after boot. -/
def firstPipe : Vfs Backend BackendState :=
  let s := (Vfs.blank Backend).setPipe 0
    { ((Vfs.blank Backend).pipes 0).empty true with readRefs := 0, writeRefs := 0 }
  let s := (s.setPipeHandle 0 ⟨true, 0, false⟩).setPipe 0 { s.pipes 0 with readRefs := 1 }
  (s.setPipeHandle 1 ⟨true, 0, true⟩).setPipe 0 { s.pipes 0 with writeRefs := 1 }

/-- Three bytes are written and two read. -/
theorem pipe_fifo_firstPipe :
    (firstPipe.pipeHandles 0 = ⟨true, 0, false⟩ ∧ firstPipe.pipeHandles 1 = ⟨true, 0, true⟩) ∧
      pipeStream 0 true firstPipe [.write 1 [7, 8, 9], .read 0 2] ++
          ((Machine.run pipeStep firstPipe [.write 1 [7, 8, 9], .read 0 2]).pipes 0).buffered =
        pipeStream 0 false firstPipe [.write 1 [7, 8, 9], .read 0 2] ∧
      ((Machine.run pipeStep firstPipe [.write 1 [7, 8, 9], .read 0 2]).pipes 0).Ring :=
  pipe_fifo (show vfsPipeAllocSlot (Vfs.blank Backend) = some (_, 0) from rfl) rfl rfl _

section

variable (ops : β → VfsBackendOps σ)

/-- What `vfs_pipe` needs is there: a pipe, two handles, two global and two local descriptors. -/
structure PipeResources (s : Vfs β σ) (task : Fin 8) : Prop where
  pipe : ∃ i, (s.pipes i).used = false
  handles : ∃ i j, i ≠ j ∧ (s.pipeHandles i).used = false ∧ (s.pipeHandles j).used = false
  globals : ∃ g g', g ≠ g' ∧ (s.fdTable g).used = false ∧ (s.fdTable g').used = false
  locals : ∃ l l', l ≠ l' ∧ s.taskFdMap (task, l) < 0 ∧ s.taskFdMap (task, l') < 0

/-- `vfs_pipe` succeeds with two descriptors of the current task that were free, and what is written
to the one is read from the other. -/
def PipeWorks (s : Vfs β σ) (osCurrentTask : Int) : Prop :=
  ∃ (rl wl : Fin 256) (rg wg : Fin 512), (vfsPipe s osCurrentTask).2 = .ok (rl, wl) ∧ rl ≠ wl ∧
    rg ≠ wg ∧ s.taskFdMap (currentTaskId osCurrentTask, rl) < 0 ∧
    s.taskFdMap (currentTaskId osCurrentTask, wl) < 0 ∧
    (vfsPipe s osCurrentTask).1.taskFdMap (currentTaskId osCurrentTask, rl) = rg ∧
    (vfsPipe s osCurrentTask).1.taskFdMap (currentTaskId osCurrentTask, wl) = wg ∧
    ∀ buf : List UInt8, buf.length ≤ 1024 →
      ((vfsRead ops (vfsWrite ops (vfsPipe s osCurrentTask).1 osCurrentTask wl buf).1
        osCurrentTask rl buf.length).2.toOption).getD [] = buf

variable {ops} {s : Vfs β σ}

lemma vfsPipeDescriptors_noSpace (task : Fin 8) (rh wh : Fin 128) :
    (vfsPipeDescriptors s task rh wh).2 = .error .noSpace := by
  obtain ⟨_, _, _, -, -, -, heq⟩ := vfsPipeDescriptors_eq_abort (s := s) task rh wh
  rw [heq]

lemma vfsPipe_noSpace (osCurrentTask : Int) : (vfsPipe s osCurrentTask).2 = .error .noSpace := by
  unfold vfsPipe
  split
  · rfl
  · split
    · split <;> rfl
    · split
      · rfl
      · exact vfsPipeDescriptors_noSpace _ _ _

/-- There is no state in which `vfs_pipe` makes a pipe. -/
theorem vfsPipe_never (ops : β → VfsBackendOps σ) (s : Vfs β σ) (osCurrentTask : Int) :
    (vfsPipe s osCurrentTask).2 = .error .noSpace ∧ ¬ PipeWorks ops s osCurrentTask := by
  have hfail := vfsPipe_noSpace (s := s) osCurrentTask
  refine ⟨hfail, ?_⟩
  rintro ⟨rl, wl, rg, wg, hok, -⟩
  rw [hfail] at hok
  cases hok

end

/-- The state right after `vfs_init`. -/
def initialVfs : Vfs Backend BackendState :=
  vfsInit (Vfs.blank Backend) BackendState.init .tfs

/-- After `vfs_init` everything is free, and `vfs_pipe` fails. -/
theorem vfsPipe_fails_at_start :
    PipeResources initialVfs 0 ∧ (vfsPipe initialVfs 0).2 = .error .noSpace ∧
      ¬ PipeWorks backendOps initialVfs 0 := by
  have hfail : (vfsPipe initialVfs 0).2 = .error .noSpace := vfsPipe_noSpace 0
  refine ⟨⟨⟨0, rfl⟩, ⟨0, 1, by decide, rfl, rfl⟩, ⟨0, 1, by decide, rfl, rfl⟩,
    ⟨0, 1, by decide, by decide, by decide⟩⟩, hfail, ?_⟩
  rintro ⟨rl, wl, rg, wg, hok, -⟩
  rw [hfail] at hok
  cases hok

end NeuroSpark
