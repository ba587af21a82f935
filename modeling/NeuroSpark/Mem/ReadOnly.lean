import NeuroSpark.Mem.Heap
import NeuroSpark.Mem.MmapRuns
import NeuroSpark.Mem.ResultCalls

/-!
# Pages without write permission

`validate_user_ptr` asks whether the pages of a range are there, for calls that read through a
pointer and for calls that write through it. A page that the task mapped or protected without
`PROT_WRITE` passes it, and is then written to. It stays as it is as long as each call with a
result buffer that touches it also has a pointer to where nothing is mapped.
-/

namespace NeuroSpark

/-- A call that gives results through a pointer, with what the rest of the kernel has for it. -/
inductive ResultCall where
  | read (buf size : BitVec 32) (answer : Except (BitVec 32 × List (BitVec 8)) (List (BitVec 8)))
  | wait4 (statusPtr : BitVec 32) (answer : Except (BitVec 32) (BitVec 32 × BitVec 32))
  | sigprocmask (how oldMaskPtr oldMask : BitVec 32)
  | stat (path userStat : BitVec 32) (answer : Except (BitVec 32) (BitVec 32 × BitVec 32))
  | fstat (userStat : BitVec 32) (answer : Option (BitVec 32))
  | readlink (linkPath targetBuf maxLen : BitVec 32)
      (answer : Except (BitVec 32 × List (BitVec 8)) (List (BitVec 8)))
  | ioctl (cmd arg : BitVec 32) (info : List (BitVec 8)) (code : BitVec 32)
  | pipe (pipefd : BitVec 32) (answer : Except (BitVec 32) (BitVec 32 × BitVec 32))
  | time (timeOut ticks : BitVec 32)
  | gettimeofday (tv ticks : BitVec 32)
  | clockGettime (clockId ts ticks : BitVec 32)
  | nanosleep (req rem : BitVec 32)
  | getrusage (who usage runtimeTicks contextSwitches : BitVec 32)
  | uname (u : BitVec 32)
  | accept (peer : BitVec 32) (answer : Except (BitVec 32) (BitVec 32 × BitVec 16 × BitVec 32))
  | recvfrom (buf len : BitVec 32)
      (answer : Except (BitVec 32 × List (BitVec 8)) (List (BitVec 8)))
  | poll (fds count ready : BitVec 32) (revents : List (BitVec 16))
  | epollWait (known : Bool) (req result : BitVec 32) (events : List (BitVec 8))
  | ptrace (allowed : Bool) (request arg : BitVec 32) (info : List (BitVec 8)) (code : BitVec 32)
  | ioSetup (maxevents ctxOut : BitVec 32) (answer : Option (BitVec 32))
  | ioGetevents (known : Bool) (maxevents events : BitVec 32)
      (answer : List (Option (BitVec 32 × List (BitVec 8)) × BitVec 32 × BitVec 32))
  | dlerror (buf cap : BitVec 32) (message : List (BitVec 8))
  | ipcRecv (channel userOut : BitVec 32) (answer : Option (BitVec 32))

def ResultCall.request (m : TaskMemory) : ResultCall → Request
  | .read buf size answer => sysRead buf size answer
  | .wait4 statusPtr answer => sysWait4 statusPtr answer
  | .sigprocmask how oldMaskPtr oldMask => sysSigprocmask how oldMaskPtr oldMask
  | .stat path userStat answer => sysStat path userStat answer
  | .fstat userStat answer => sysFstat userStat answer
  | .readlink linkPath targetBuf maxLen answer => sysReadlink linkPath targetBuf maxLen answer
  | .ioctl cmd arg info code => sysIoctl cmd arg info code
  | .pipe pipefd answer => sysPipe pipefd answer
  | .time timeOut ticks => sysTime timeOut ticks
  | .gettimeofday tv ticks => sysGettimeofday tv ticks
  | .clockGettime clockId ts ticks => sysClockGettime clockId ts ticks
  | .nanosleep req rem => sysNanosleep m req rem
  | .getrusage who usage runtimeTicks contextSwitches =>
      sysGetrusage who usage runtimeTicks contextSwitches
  | .uname u => sysUname u
  | .accept peer answer => sysAccept peer answer
  | .recvfrom buf len answer => sysRecvfrom buf len answer
  | .poll fds count ready revents => sysPoll fds count ready revents
  | .epollWait known req result events => sysEpollWait m known req result events
  | .ptrace allowed request arg info code => sysPtrace allowed request arg info code
  | .ioSetup maxevents ctxOut answer => sysIoSetup maxevents ctxOut answer
  | .ioGetevents known maxevents events answer => sysIoGetevents known maxevents events answer
  | .dlerror buf cap message => sysDlerror buf cap message
  | .ipcRecv channel userOut answer => sysIpcRecv channel userOut answer

/-- What a task does with its memory: its system calls, and the stores of its own code. -/
inductive MemoryCall where
  | mapping (c : MmapCall)
  | heap (c : BreakCall)
  | store (addr v : BitVec 32)
  | results (c : ResultCall)

def memoryStep (m : TaskMemory) : MemoryCall → TaskMemory × BitVec 32
  | .mapping c => mmapStep m c
  | .heap c => breakStep m c
  | .store addr v => ({ m with paging := storeUser m.paging m.pageDir addr v }, okWord)
  | .results c => serve m (c.request m)

/-- The call maps or protects page `n` without `PROT_WRITE`. -/
def MemoryCall.Protects (m : TaskMemory) (n : Nat) : MemoryCall → Prop
  | .mapping (.mmap addr len prot) => MmapSucceeds (sysMmap m addr len prot).2 ∧
      prot &&& protWrite = 0 ∧ InRange (sysMmap m addr len prot).2 (alignUpPage len) n
  | .mapping (.mprotect addr len prot) => (sysMprotect m addr len prot).2 = okWord ∧
      prot &&& protWrite = 0 ∧ InRange (pageFloor addr) (alignUpPage len) n
  | _ => False

/-- A task and the pages that it mapped or protected without `PROT_WRITE` and that are mapped as
they were then. -/
structure GuardedTask where
  memory : TaskMemory
  readOnly : Nat → Prop

section

variable {background : Pmm} {m : TaskMemory} {s : Paging} {dir n : Nat}

section

variable (hm : m.Sound background)
include hm

lemma TaskMemory.Sound.of_changes {touched lost : Nat → Prop}
    (h : m.paging.Changes background (frameOf m.pageDir) touched lost s) :
    TaskMemory.Sound background { m with paging := s } :=
  ⟨hm.low, hm.dir, h.sound⟩

end

/-- The task has no break yet, or one in its bounds. -/
def BreakBounds (m : TaskMemory) : Prop :=
  m.taskBrkBase = 0 ∨ m.taskBrkBase = brkDefaultBaseAddr ∧
    brkDefaultBaseAddr.toNat ≤ m.taskBrkCurrent.toNat ∧
    m.taskBrkCurrent.toNat ≤ brkDefaultLimit.toNat

structure TaskMemory.Ready (background : Pmm) (m : TaskMemory) : Prop where
  sound : m.Sound background
  bounds : BreakBounds m

section

variable (hm : m.Ready background)
include hm

lemma TaskMemory.Ready.of_changes {touched lost : Nat → Prop}
    (h : m.paging.Changes background (frameOf m.pageDir) touched lost s) :
    TaskMemory.Ready background { m with paging := s } :=
  ⟨hm.sound.of_changes h, hm.bounds⟩

lemma TaskMemory.Ready.ensure : (ensureTaskIdentityDefaults m).Ready background ∧
      (ensureTaskIdentityDefaults m).taskBrkBase = brkDefaultBaseAddr := by
  refine ⟨⟨ensure_sound hm.sound, ?_⟩, ?_⟩
  · unfold ensureTaskIdentityDefaults
    split_ifs
    · have hle : brkDefaultBaseAddr.toNat ≤ brkDefaultLimit.toNat := by decide
      exact Or.inr ⟨rfl, le_rfl, hle⟩
    · exact hm.bounds
  · unfold ensureTaskIdentityDefaults
    split_ifs with hzero
    · rfl
    · exact (hm.bounds.resolve_left hzero).1

lemma mmapStep_ready (c : MmapCall) : (mmapStep m c).1.Ready background := by
  cases c with
  | mmap addr len prot =>
    obtain ⟨hchanges, hresult⟩ := sysMmap_cases hm.sound addr len prot
    refine ⟨hchanges.sound hm.sound, ?_⟩
    have hbounds := hm.ensure.1.bounds
    rcases hresult with ⟨-, hstate⟩ | ⟨-, -, -, hstate⟩ | ⟨-, -, hstate, -⟩ <;>
      · change BreakBounds (sysMmap m addr len prot).1
        rw [hstate]
        exact hbounds
  | munmap addr len =>
    refine ⟨(sysMunmap_none hm.sound addr len).1, ?_⟩
    change BreakBounds (sysMunmap m addr len).1
    unfold sysMunmap
    dsimp only
    split_ifs <;> exact hm.bounds
  | mprotect addr len prot =>
    refine ⟨(sysMprotect_none hm.sound addr len prot).1, ?_⟩
    change BreakBounds (sysMprotect m addr len prot).1
    unfold sysMprotect
    split_ifs <;> exact hm.bounds

end

/-! ### Protected pages -/

/-- What a call maps or protects without `PROT_WRITE` cannot be written by the task. -/
lemma MemoryCall.Protects.entry (hm : m.Sound background) {c : MemoryCall} (h : c.Protects m n) :
    n < 1048576 ∧ ∃ e, (memoryStep m c).1.userPte n = some e ∧ e &&& pageRw = 0 := by
  cases c with
  | heap | store | results => exact h.elim
  | mapping c =>
    cases c with
    | munmap addr len => exact h.elim
    | mmap addr len prot =>
      obtain ⟨hok, hprot, hn⟩ := h
      obtain ⟨hbase, -, -, hpages⟩ :=
        ((sysMmap_cases hm addr len prot).2.resolve_left fun h => hok.1 h.1).resolve_left
          fun h => hok.2 h.1
      rw [hbase] at hn
      obtain ⟨e, he, hrw⟩ := hpages n hn
      exact ⟨hn.lt, e, he, not_not.1 fun h => hrw.1 h hprot⟩
    | mprotect addr len prot =>
      obtain ⟨hok, hprot, hn⟩ := h
      have hspec := setUserWritableForRange_spec (pageFloor addr) (alignUpPage len)
        hm.space hm.dir rfl (decide (prot &&& protWrite ≠ 0))
      change _ ∧ ∃ e, (sysMprotect m addr len prot).1.userPte n = some e ∧ _
      unfold sysMprotect at hok ⊢
      have hbad : errBadPointer ≠ okWord := by decide
      by_cases hlen : len = 0
      · rw [if_pos hlen] at hok
        exact absurd hok hbad
      rw [if_neg hlen] at hok ⊢
      dsimp only at hok ⊢
      split_ifs at hok with hset
      · obtain ⟨e, -, he⟩ := hspec.2.1 hset n hn
        refine ⟨hn.lt, _, he, ?_⟩
        rw [hprot]
        exact not_not.1 fun h => by simpa using (withWritable_rw e _).1 h
      · exact absurd hok hbad

/-- The pages that are protected are there, and the task cannot write them. -/
structure GuardedTask.Sound (background : Pmm) (t : GuardedTask) : Prop where
  ready : t.memory.Ready background
  readOnly : ∀ n, t.readOnly n → n < 1048576 ∧ ∃ e, t.memory.userPte n = some e ∧ e &&& pageRw = 0

variable {t : GuardedTask}

end

end NeuroSpark
