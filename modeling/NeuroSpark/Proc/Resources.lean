import NeuroSpark.Net.Sockets

/-!
# Sockets, epoll objects and contexts of asynchronous I/O

Besides its files a task has sockets and epoll objects, in tables of its own, and contexts of
asynchronous I/O, which are in one table for all tasks and name their owner. What the network stack
keeps about a socket, the events of an epoll object and the requests of a context are left out.
-/

namespace NeuroSpark

/-- An entry as `ns_socket_alloc_fd` fills it. -/
def NsSocketEntry.opened (type protocol : Int) : NsSocketEntry :=
  { NsSocketEntry.closed with used := true, type := type, protocol := protocol }

abbrev TaskSockets := Fin 64 → NsSocketEntry

def nsSocketFdToSlot (fd : Int) : Option (Fin 64) :=
  if h : 0 ≤ fd - nsSocketFdBase ∧ fd - nsSocketFdBase < 64 then
    some ⟨(fd - nsSocketFdBase).toNat, by omega⟩
  else none

/-- The slot of a socket that is open. -/
def nsSocketEntryForFd (t : TaskSockets) (fd : Int) : Option (Fin 64) :=
  (nsSocketFdToSlot fd).filter fun i => (t i).used

def nsSocketAllocFd (t : TaskSockets) (type protocol : Int) : TaskSockets × Int :=
  match (List.finRange 64).find? fun i => !(t i).used with
  | some i => (Function.update t i (NsSocketEntry.opened type protocol), nsSocketFdBase + i)
  | none => (t, -1)

def nsSocketCloseEntry (e : NsSocketEntry) : NsSocketEntry :=
  if e.used then NsSocketEntry.closed else e

def nsSocketCloseAll (t : TaskSockets) : TaskSockets := fun i => nsSocketCloseEntry (t i)

structure NsEpollWatch where
  used : Bool
  fd : Int
  events : UInt16
  deriving DecidableEq

structure NsEpollObject where
  used : Bool
  watches : Fin 64 → NsEpollWatch

def NsEpollWatch.none : NsEpollWatch := ⟨false, -1, 0⟩

abbrev TaskEpolls := Fin 8 → NsEpollObject

def nsEpollFdBase : Int := 2048

def nsEpollFdToSlot (fd : Int) : Option (Fin 8) :=
  if h : 0 ≤ fd - nsEpollFdBase ∧ fd - nsEpollFdBase < 8 then
    some ⟨(fd - nsEpollFdBase).toNat, by omega⟩
  else none

def nsEpollObjectForFd (t : TaskEpolls) (fd : Int) : Option (Fin 8) :=
  (nsEpollFdToSlot fd).filter fun i => (t i).used

def nsEpollAllocFd (t : TaskEpolls) : TaskEpolls × Int :=
  match (List.finRange 8).find? fun i => !(t i).used with
  | some i => (Function.update t i ⟨true, fun _ => NsEpollWatch.none⟩, nsEpollFdBase + i)
  | none => (t, -1)

def nsEpollCloseObject (e : NsEpollObject) : NsEpollObject :=
  if e.used then ⟨false, fun _ => NsEpollWatch.none⟩ else e

def nsEpollCloseAll (t : TaskEpolls) : TaskEpolls := fun i => nsEpollCloseObject (t i)

@[simp] lemma nsSocketCloseAll_used (t : TaskSockets) (i : Fin 64) :
    (nsSocketCloseAll t i).used = false := by
  unfold nsSocketCloseAll nsSocketCloseEntry
  split_ifs with h
  · rfl
  · simpa using h

@[simp] lemma nsEpollCloseAll_used (t : TaskEpolls) (i : Fin 8) :
    (nsEpollCloseAll t i).used = false := by
  unfold nsEpollCloseAll nsEpollCloseObject
  split_ifs with h
  · rfl
  · simpa using h

structure NsAioCtx where
  used : Bool
  ownerTask : Int
  maxevents : UInt32
  deriving DecidableEq

abbrev AioContexts := Fin 4 → NsAioCtx

def NsAioCtx.OwnedBy (c : NsAioCtx) (task : Fin 8) : Prop :=
  c.used = true ∧ c.ownerTask = (task : Nat)

instance (c : NsAioCtx) (task : Fin 8) : Decidable (c.OwnedBy task) :=
  inferInstanceAs (Decidable (_ ∧ _))

/-- The handle is 0 when all contexts are in use. -/
def aioAllocContext (t : AioContexts) (task : Fin 8) (maxevents : UInt32) : AioContexts × Nat :=
  match (List.finRange 4).find? fun i => !(t i).used with
  | some i => (Function.update t i ⟨true, (task : Nat), maxevents⟩, i + 1)
  | none => (t, 0)

def aioCloseAllForTask (t : AioContexts) (task : Fin 8) : AioContexts := fun i =>
  if (t i).OwnedBy task then ⟨false, -1, 0⟩ else t i

lemma aioCloseAllForTask_ownedBy (t : AioContexts) (task task' : Fin 8) (i : Fin 4) :
    (aioCloseAllForTask t task i).OwnedBy task' ↔ task' ≠ task ∧ (t i).OwnedBy task' := by
  unfold aioCloseAllForTask
  split_ifs with h
  · constructor
    · rintro ⟨hused, -⟩
      cases hused
    · rintro ⟨hne, -, howner⟩
      have : ((task' : Nat) : Int) = (task : Nat) := howner.symm.trans h.2
      exact absurd (Fin.ext (by omega)) hne
  · constructor
    · intro h'
      refine ⟨?_, h'⟩
      rintro rfl
      exact h h'
    · exact fun h' => h'.2

lemma aioAllocContext_ownedBy (t : AioContexts) {task task' : Fin 8} (maxevents : UInt32)
    (hne : task' ≠ task) (i : Fin 4) :
    ((aioAllocContext t task maxevents).1 i).OwnedBy task' ↔ (t i).OwnedBy task' := by
  unfold aioAllocContext
  split
  · rename_i j hj
    have hfree : (t j).used = false := by simpa using List.find?_some hj
    dsimp only
    by_cases hij : i = j
    · subst hij
      rw [Function.update_self]
      constructor
      · rintro ⟨-, howner⟩
        have : ((task' : Nat) : Int) = (task : Nat) := howner.symm
        exact absurd (Fin.ext (by omega)) hne
      · rintro ⟨hused, -⟩
        rw [hfree] at hused
        cases hused
    · rw [Function.update_of_ne hij]
  · exact Iff.rfl

end NeuroSpark
