import Mathlib.Data.List.Flatten
import NeuroSpark.Mem.Mappings

/-!
# Calls that give results through user pointers

A handler of `syscall.c` makes its checks one after the other, asks the rest of the kernel for the
answer, and stores it where the pointers of the call say. Here it becomes a `Request`: the checks,
each with the code it fails with, the buffers for results, and the reply, in which the answer of
the rest of the kernel is given. Paging is on without the write protection of the kernel
(`paging.asm` sets `PG` and `PE` of `cr0` and not `WP`), so that a store of a handler asks only
whether the page is there.
-/

namespace NeuroSpark

/-- More error codes as words. -/
def errWouldBlock : BitVec 32 := -3
def errPermission : BitVec 32 := -4
def errInvalidArg : BitVec 32 := -22
def errNotImplemented : BitVec 32 := -38

def maxUserStringLen : Nat := 128
def taskMaxFds : BitVec 32 := 256
def aioMaxReq : BitVec 32 := 64

/-- Byte `k` of a word, and a word with another byte `k`. -/
def byteOfWord (w : BitVec 32) (k : Nat) : BitVec 8 := (w >>> (8 * k)).setWidth 8
def setByteOfWord (w : BitVec 32) (k : Nat) (v : BitVec 8) : BitVec 32 :=
  w &&& ~~~(0xFF#32 <<< (8 * k)) ||| v.setWidth 32 <<< (8 * k)

namespace TaskMemory

def loadByte (m : TaskMemory) (addr : BitVec 32) : BitVec 8 :=
  match m.userPte (pageNo addr) with
  | none => 0
  | some e => byteOfWord (m.paging.memory (frameOf e) (wordIndex addr)) (addr.toNat % 4)

def loadWord (m : TaskMemory) (addr : BitVec 32) : BitVec 32 :=
  m.loadByte (addr + 3) ++ m.loadByte (addr + 2) ++ m.loadByte (addr + 1) ++ m.loadByte addr

/-- A store of the kernel at a user address. It does not look at `PAGE_RW`. -/
def storeByte (m : TaskMemory) (addr : BitVec 32) (v : BitVec 8) : TaskMemory :=
  match m.userPte (pageNo addr) with
  | none => m
  | some e =>
    let w := setByteOfWord (m.paging.memory (frameOf e) (wordIndex addr)) (addr.toNat % 4) v
    { m with paging := m.paging.setWord (frameOf e) (wordIndex addr) w }

def storeBytes (m : TaskMemory) (addr : BitVec 32) : List (BitVec 8) → TaskMemory
  | [] => m
  | v :: data => (m.storeByte addr v).storeBytes (addr + 1) data

def validateUserPtr (m : TaskMemory) (ptr size : BitVec 32) : Bool :=
  if ptr = 0 ∨ size = 0 then false else isUserRangeAccessible m.paging m.pageDir ptr size

def validateUserString (m : TaskMemory) (s : BitVec 32) : Bool :=
  if s = 0 then false else go s maxUserStringLen
where
  go (s : BitVec 32) : Nat → Bool
    | 0 => false
    | fuel + 1 =>
      if isUserRangeAccessible m.paging m.pageDir s 1 = false then false
      else if m.loadByte s = 0 then true
      else go (s + 1) fuel

end TaskMemory

/-- A check of a handler and the code with which it fails. -/
inductive Check where
  | pointer (ptr size code : BitVec 32)
  | text (ptr code : BitVec 32)
  | holds (condition : Bool) (code : BitVec 32)

def Check.passes (m : TaskMemory) : Check → Bool
  | .pointer ptr size _ => m.validateUserPtr ptr size
  | .text ptr _ => m.validateUserString ptr
  | .holds condition _ => condition

def Check.code : Check → BitVec 32
  | .pointer _ _ code => code
  | .text _ code => code
  | .holds _ code => code

/-- Where results go, as far as a handler may store there. -/
structure Buffer where
  ptr : BitVec 32
  size : Nat

/-- After the checks a handler answers with a value and stores the bytes that it has for each of its
buffers, also when the value is the code of an error. -/
structure Request where
  checks : List Check
  buffers : List Buffer
  reply : BitVec 32 × List (List (BitVec 8))

/-- The check with which a call fails. -/
def Request.failing (m : TaskMemory) (q : Request) : Option Check :=
  q.checks.find? fun check => !check.passes m

def storeResults (m : TaskMemory) (results : List (Buffer × List (BitVec 8))) : TaskMemory :=
  results.foldl (fun m (buffer, data) => m.storeBytes buffer.ptr (data.take buffer.size)) m

def serve (m : TaskMemory) (q : Request) : TaskMemory × BitVec 32 :=
  match q.failing m with
  | some check => (m, check.code)
  | none => (storeResults m (q.buffers.zip q.reply.2), q.reply.1)

/-- The bytes of words, the low byte first. -/
def wordBytes (w : BitVec 32) : List (BitVec 8) := (List.range 4).map (byteOfWord w)
def wordsBytes (ws : List (BitVec 32)) : List (BitVec 8) := ws.flatMap wordBytes

/-- A pointer that may be null: then it is neither checked nor stored at. -/
def optionalPointer (ptr size : BitVec 32) : List Check :=
  if ptr = 0 then [] else [.pointer ptr size errBadPointer]
def optionalBuffer (ptr : BitVec 32) (size : Nat) : List Buffer :=
  if ptr = 0 then [] else [⟨ptr, size⟩]

/-- An error stores nothing. -/
def answered {α : Type} (answer : Except (BitVec 32) α)
    (reply : α → BitVec 32 × List (List (BitVec 8))) : BitVec 32 × List (List (BitVec 8)) :=
  match answer with
  | .error code => (code, [])
  | .ok a => reply a

/-- Data received into a buffer of a given size; the result is their number. Some data may be there
before an error. -/
def received (size : BitVec 32) :
    Except (BitVec 32 × List (BitVec 8)) (List (BitVec 8)) → BitVec 32 × List (List (BitVec 8))
  | .error (code, data) => (code, [data])
  | .ok data => (BitVec.ofNat 32 (data.take size.toNat).length, [data])

def bootEpochSeconds : BitVec 32 := 1767225600

def realtimeNow (ticks : BitVec 32) : BitVec 32 × BitVec 32 :=
  (bootEpochSeconds + ticks / 100, ticks % 100 * 10000000)

def sysRead (buf size : BitVec 32)
    (answer : Except (BitVec 32 × List (BitVec 8)) (List (BitVec 8))) : Request where
  checks := [.pointer buf size errBadPointer]
  buffers := [⟨buf, size.toNat⟩]
  reply := received size answer

def sysWait4 (statusPtr : BitVec 32) (answer : Except (BitVec 32) (BitVec 32 × BitVec 32)) :
    Request where
  checks := optionalPointer statusPtr 4
  buffers := optionalBuffer statusPtr 4
  reply := answered answer fun (child, status) => (child, [wordBytes status])

def sysSigprocmask (how oldMaskPtr oldMask : BitVec 32) : Request where
  checks := optionalPointer oldMaskPtr 4
  buffers := optionalBuffer oldMaskPtr 4
  reply :=
    if how = 0 ∨ how = 1 ∨ how = 2 then (okWord, [wordBytes oldMask]) else (errBadPointer, [])

def sysStat (path userStat : BitVec 32) (answer : Except (BitVec 32) (BitVec 32 × BitVec 32)) :
    Request where
  checks := [.text path errBadPointer, .pointer userStat 8 errBadPointer]
  buffers := [⟨userStat, 8⟩]
  reply := answered answer fun (size, flags) => (okWord, [wordsBytes [size, flags]])

def sysFstat (userStat : BitVec 32) (answer : Option (BitVec 32)) : Request where
  checks := [.pointer userStat 8 errBadPointer]
  buffers := [⟨userStat, 8⟩]
  reply :=
    match answer with
    | none => (errNotImplemented, [])
    | some last => (okWord, [wordsBytes [last, 1]])

def sysReadlink (linkPath targetBuf maxLen : BitVec 32)
    (answer : Except (BitVec 32 × List (BitVec 8)) (List (BitVec 8))) : Request where
  checks := [.text linkPath errBadPointer, .pointer targetBuf maxLen errBadPointer]
  buffers := [⟨targetBuf, maxLen.toNat⟩]
  reply := received maxLen answer

/-- `sizeof` the structure that an `ioctl` command fills, if it fills one. -/
def ioctlOutput (cmd : BitVec 32) : Option (BitVec 32) :=
  if cmd = 0x1001 then some 60
  else if cmd = 0x1002 then some 44
  else if cmd = 0x1006 then some 16
  else if cmd = 0x2001 then some 40
  else none

/-- The commands that fill no structure answer with a code; of these only one takes a pointer. -/
def sysIoctl (cmd arg : BitVec 32) (info : List (BitVec 8)) (code : BitVec 32) : Request :=
  match ioctlOutput cmd with
  | some size =>
    { checks := [.holds (arg ≠ 0) errInvalidArg, .pointer arg size errBadPointer]
      buffers := [⟨arg, size.toNat⟩]
      reply := (okWord, [info]) }
  | none =>
    { checks :=
        if cmd = 0x2002 then [.holds (arg ≠ 0) errInvalidArg, .pointer arg 6 errBadPointer] else []
      buffers := []
      reply := (code, []) }

def sysPipe (pipefd : BitVec 32) (answer : Except (BitVec 32) (BitVec 32 × BitVec 32)) :
    Request where
  checks := [.pointer pipefd 8 errBadPointer]
  buffers := [⟨pipefd, 8⟩]
  reply := answered answer fun (rfd, wfd) => (okWord, [wordsBytes [rfd, wfd]])

def sysTime (timeOut ticks : BitVec 32) : Request where
  checks := optionalPointer timeOut 4
  buffers := optionalBuffer timeOut 4
  reply := ((realtimeNow ticks).1, [wordBytes (realtimeNow ticks).1])

def sysGettimeofday (tv ticks : BitVec 32) : Request where
  checks := [.pointer tv 8 errBadPointer]
  buffers := [⟨tv, 8⟩]
  reply := (okWord, [wordsBytes [(realtimeNow ticks).1, (realtimeNow ticks).2 / 1000]])

def sysClockGettime (clockId ts ticks : BitVec 32) : Request where
  checks := [.pointer ts 8 errBadPointer]
  buffers := [⟨ts, 8⟩]
  reply :=
    if clockId = 0 then (okWord, [wordsBytes [(realtimeNow ticks).1, (realtimeNow ticks).2]])
    else if clockId = 1 then (okWord, [wordsBytes [ticks / 100, ticks % 100 * 10000000]])
    else (errBadPointer, [])

def sysNanosleep (m : TaskMemory) (req rem : BitVec 32) : Request where
  checks := [.pointer req 8 errBadPointer,
    .holds (decide (m.loadWord (req + 4) < 1000000000)) errBadPointer] ++ optionalPointer rem 8
  buffers := optionalBuffer rem 8
  reply := (okWord, [wordsBytes [0, 0]])

def sysGetrusage (who usage runtimeTicks contextSwitches : BitVec 32) : Request where
  checks := [.holds (who = 0) errNotImplemented, .pointer usage 24 errBadPointer]
  buffers := [⟨usage, 24⟩]
  reply := (okWord, [wordsBytes
    [runtimeTicks / 100, runtimeTicks % 100 * 10000, 0, 0, 0, contextSwitches]])

/-- A field of a structure that was cleared before the text was copied. -/
def textField (cap : Nat) (text : String) : List (BitVec 8) :=
  let bytes := text.toList.map fun c => BitVec.ofNat 8 c.toNat
  (bytes.take (cap - 1) ++ List.replicate cap 0).take cap

def sysUname (u : BitVec 32) : Request where
  checks := [.pointer u 160 errBadPointer]
  buffers := [⟨u, 160⟩]
  reply := (okWord,
    [["NeuroSpark", "neurospark-host", "0.4.0", "Phase22", "i686"].flatMap (textField 32)])

/-- The port and the address are stored with their high bytes first. -/
def sysAccept (peer : BitVec 32) (answer : Except (BitVec 32) (BitVec 32 × BitVec 16 × BitVec 32)) :
    Request where
  checks := optionalPointer peer 8
  buffers := optionalBuffer peer 8
  reply := answered answer fun (newfd, port, ip) =>
    (newfd, [[2#8, 0#8, (port >>> 8).setWidth 8, port.setWidth 8] ++ (wordBytes ip).reverse])

def sysRecvfrom (buf len : BitVec 32)
    (answer : Except (BitVec 32 × List (BitVec 8)) (List (BitVec 8))) : Request where
  checks := [.pointer buf len errBadPointer]
  buffers := [⟨buf, len.toNat⟩]
  reply := received len answer

/-- Each entry of the array gets its `revents`. -/
def sysPoll (fds count : BitVec 32) (ready : BitVec 32) (revents : List (BitVec 16)) : Request :=
  if count = 0 then ⟨[], [], (okWord, [])⟩
  else
    { checks := [.holds (decide (count ≤ taskMaxFds ∧ fds ≠ 0)) errInvalidArg,
        .pointer fds (8 * count) errBadPointer]
      buffers := (List.range count.toNat).map fun i => ⟨fds + BitVec.ofNat 32 (8 * i + 6), 2⟩
      reply := (ready, revents.map fun (r : BitVec 16) => [r.setWidth 8, (r >>> 8).setWidth 8]) }

/-- The array and its length are in the structure that the pointer of the call points at. -/
def sysEpollWait (m : TaskMemory) (known : Bool) (req : BitVec 32) (result : BitVec 32)
    (events : List (BitVec 8)) : Request :=
  let array := m.loadWord req
  let maxevents := m.loadWord (req + 4)
  { checks := [.holds (known && req ≠ 0) errInvalidArg, .pointer req 12 errBadPointer,
      .holds (decide (array ≠ 0 ∧ maxevents ≠ 0 ∧ maxevents ≤ taskMaxFds)) errInvalidArg,
      .pointer array (8 * maxevents) errBadPointer]
    buffers := [⟨array, (8 * maxevents).toNat⟩]
    reply := (result, [events]) }

/-- Two requests fill a structure, the others answer with a code. -/
def sysPtrace (allowed : Bool) (request arg : BitVec 32) (info : List (BitVec 8))
    (code : BitVec 32) : Request :=
  if request = 0 then
    { checks := [.holds allowed errPermission, .pointer arg 104 errBadPointer]
      buffers := [⟨arg, 104⟩]
      reply := (okWord, [info]) }
  else if request = 1 then
    { checks := [.holds allowed errPermission, .pointer arg 40 errBadPointer]
      buffers := [⟨arg, 40⟩]
      reply := (okWord, [info]) }
  else
    { checks := [.holds allowed errPermission]
      buffers := []
      reply := (code, []) }

/-- The two functions of asynchronous input and output report a bad pointer as a bad argument. -/
def sysIoSetup (maxevents ctxOut : BitVec 32) (answer : Option (BitVec 32)) : Request where
  checks := [.holds (decide (maxevents ≠ 0 ∧ maxevents ≤ aioMaxReq)) errInvalidArg,
    .pointer ctxOut 4 errInvalidArg]
  buffers := [⟨ctxOut, 4⟩]
  reply :=
    match answer with
    | none => (errNoSpace, [])
    | some handle => (okWord, [wordBytes handle])

/-- A sector that was read goes to the buffer of its request, which was checked when it was handed
in and is not checked again; then the event is stored. -/
def sysIoGetevents (known : Bool) (maxevents events : BitVec 32)
    (answer : List (Option (BitVec 32 × List (BitVec 8)) × BitVec 32 × BitVec 32)) : Request where
  checks := [.holds (known && maxevents ≠ 0) errInvalidArg,
    .pointer events (maxevents * 8) errInvalidArg]
  buffers := answer.zipIdx.flatMap fun ((sector, _), i) =>
    (sector.toList.map fun (userBuf, _) => ⟨userBuf, 512⟩) ++ [⟨events + BitVec.ofNat 32 (8 * i), 8⟩]
  reply := (BitVec.ofNat 32 answer.length, answer.flatMap fun (sector, userData, rc) =>
    (sector.toList.map fun (_, data) => data) ++ [wordsBytes [userData, rc]])

def sysDlerror (buf cap : BitVec 32) (message : List (BitVec 8)) : Request :=
  let text := message.take (cap.toNat - 1)
  { checks := [.holds (decide (buf ≠ 0 ∧ cap ≠ 0)) errInvalidArg, .pointer buf cap errBadPointer]
    buffers := [⟨buf, cap.toNat⟩]
    reply := (BitVec.ofNat 32 text.length, [text ++ [0]]) }

def sysIpcRecv (channel userOut : BitVec 32) (answer : Option (BitVec 32)) : Request where
  checks := .holds (decide (channel.toInt ≥ 0 ∧ channel.toInt < 4)) errBadPointer ::
    optionalPointer userOut 4
  buffers := optionalBuffer userOut 4
  reply :=
    match answer with
    | none => (errWouldBlock, [])
    | some out => (okWord, [wordBytes out])

end NeuroSpark
