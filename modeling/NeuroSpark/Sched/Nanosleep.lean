import Mathlib.Algebra.Order.Floor.Div
import NeuroSpark.Mem.ResultCalls
import NeuroSpark.Sched.Kernel

/-!
# Sleeping for a time

`SYS_NANOSLEEP` turns seconds and nanoseconds into ticks of ten milliseconds. It counts the
nanoseconds in 32 bits, which hold four seconds and not five.
-/

namespace NeuroSpark

def nsNsecPerSec : BitVec 32 := 1000000000
def nsTicksPerSecond : BitVec 32 := 100

def nanosleepTicks (tvSec tvNsec : BitVec 32) : BitVec 32 :=
  let totalNs := tvSec * nsNsecPerSec + tvNsec
  let ticks := (totalNs + nsNsecPerSec / nsTicksPerSecond - 1) / (nsNsecPerSec / nsTicksPerSecond)
  if ticks = 0 then 1 else ticks

/-- What `SYS_NANOSLEEP` asks of the scheduler when its checks are passed. -/
def nanosleepCall (m : TaskMemory) (req rem : BitVec 32) : Option Call :=
  match (sysNanosleep m req rem).failing m with
  | some _ => none
  | none =>
    some (.taskSleep (UInt32.ofBitVec (nanosleepTicks (m.loadWord req) (m.loadWord (req + 4)))))

def requestedNs (tvSec tvNsec : BitVec 32) : Nat := tvSec.toNat * 1000000000 + tvNsec.toNat

/-- As many ticks as cover the time, and one at least. -/
def requestedTicks (tvSec tvNsec : BitVec 32) : Nat := max 1 (requestedNs tvSec tvNsec ⌈/⌉ 10000000)

lemma requestedTicks_eq (tvSec tvNsec : BitVec 32) :
    requestedTicks tvSec tvNsec = max 1 ((requestedNs tvSec tvNsec + 9999999) / 10000000) := by
  have hpred : requestedNs tvSec tvNsec + 10000000 - 1 = requestedNs tvSec tvNsec + 9999999 :=
    Nat.add_sub_assoc (by decide) _
  rw [requestedTicks, Nat.ceilDiv_eq_add_pred_div, hpred]

lemma toNat_nanosleepTicks (tvSec tvNsec : BitVec 32) : (nanosleepTicks tvSec tvNsec).toNat =
    max 1 ((requestedNs tvSec tvNsec + 9999999) % 2 ^ 32 / 10000000) := by
  have hperTick : nsNsecPerSec / nsTicksPerSecond = 10000000 := rfl
  have hsum : (tvSec * nsNsecPerSec + tvNsec + 10000000 - 1).toNat =
      (requestedNs tvSec tvNsec + 9999999) % 2 ^ 32 := by
    have hsec : nsNsecPerSec.toNat = 1000000000 := rfl
    have hten : (10000000 : BitVec 32).toNat = 10000000 := rfl
    have hone : (1 : BitVec 32).toNat = 1 := rfl
    rw [BitVec.toNat_sub, BitVec.toNat_add, BitVec.toNat_add, BitVec.toNat_mul, hsec, hten, hone,
      requestedNs]
    omega
  unfold nanosleepTicks
  dsimp only
  rw [hperTick]
  generalize tvSec * nsNsecPerSec + tvNsec + 10000000 - 1 = sum at hsum
  have hdiv : (sum / 10000000).toNat =
      (requestedNs tvSec tvNsec + 9999999) % 2 ^ 32 / 10000000 := by
    rw [BitVec.toNat_udiv, hsum]
    rfl
  rw [← hdiv]
  split_ifs with hzero
  · rw [hzero]
    rfl
  · have hpos : (sum / 10000000).toNat ≠ 0 := fun h => hzero (BitVec.eq_of_toNat_eq h)
    omega

lemma nanosleepTicks_eq_iff (tvSec tvNsec : BitVec 32) :
    (nanosleepTicks tvSec tvNsec).toNat = requestedTicks tvSec tvNsec ↔
      requestedNs tvSec tvNsec + 9999999 < 2 ^ 32 := by
  rw [toNat_nanosleepTicks, requestedTicks_eq]
  generalize requestedNs tvSec tvNsec + 9999999 = sum
  constructor
  · intro heq
    by_contra hlarge
    rcases Nat.lt_or_ge sum (2 ^ 32 + 10000000) with hlt | hge
    · omega
    · omega
  · intro hsmall
    rw [Nat.mod_eq_of_lt hsmall]

lemma nanosleepCall_eq {m : TaskMemory} {req rem : BitVec 32}
    (hok : (sysNanosleep m req rem).failing m = none) : nanosleepCall m req rem =
      some (.taskSleep (UInt32.ofBitVec
        (nanosleepTicks (m.loadWord req) (m.loadWord (req + 4))))) := by
  rw [nanosleepCall, hok]

/-- A call that passes its checks sleeps as long as it should just when the nanoseconds can be
rounded up in 32 bits. -/
theorem nanosleep_exact_iff {m : TaskMemory} {req rem : BitVec 32}
    (hok : (sysNanosleep m req rem).failing m = none) :
    (∃ ticks, nanosleepCall m req rem = some (.taskSleep ticks) ∧
        ticks.toNat = requestedTicks (m.loadWord req) (m.loadWord (req + 4))) ↔
      requestedNs (m.loadWord req) (m.loadWord (req + 4)) + 9999999 < 2 ^ 32 := by
  rw [← nanosleepTicks_eq_iff, nanosleepCall_eq hok]
  constructor
  · rintro ⟨ticks, hcall, heq⟩
    cases hcall
    exact heq
  · exact fun heq => ⟨_, rfl, heq⟩

/-- A task with two pages, at the first of which it keeps a number of seconds and no nanoseconds. -/
def sleeper (seconds : BitVec 32) : TaskMemory where
  paging :=
    { memoryBitmap := fun _ => 0xFF
      memory := fun page i =>
        if page = 512 ∧ i = 256 then 0x201007
        else if page = 513 ∧ i = 0 then 0x202007
        else if page = 513 ∧ i = 1 then 0x203007
        else if page = 514 ∧ i = 0 then seconds
        else 0 }
  pageDir := 0x200000
  taskBrkBase := 0
  taskBrkCurrent := 0
  taskMmapNext := 0

lemma sleeper_passes :
    (sysNanosleep (sleeper 4) 0x40000000 0).failing (sleeper 4) = none ∧
      (sysNanosleep (sleeper 5) 0x40000000 0).failing (sleeper 5) = none := by
  constructor
  · decide
  · decide

/-- A sleep of four seconds. -/
theorem nanosleep_exact_four :
    (∃ ticks, nanosleepCall (sleeper 4) 0x40000000 0 = some (.taskSleep ticks) ∧
        ticks.toNat = requestedTicks ((sleeper 4).loadWord 0x40000000)
          ((sleeper 4).loadWord (0x40000000 + 4))) ↔
      requestedNs ((sleeper 4).loadWord 0x40000000) ((sleeper 4).loadWord (0x40000000 + 4)) +
        9999999 < 2 ^ 32 :=
  nanosleep_exact_iff sleeper_passes.1

/-- Four seconds are 400 ticks, and five are 71. -/
theorem nanosleep_five_seconds :
    nanosleepCall (sleeper 4) 0x40000000 0 = some (.taskSleep 400) ∧
      nanosleepCall (sleeper 5) 0x40000000 0 = some (.taskSleep 71) ∧
      requestedTicks ((sleeper 5).loadWord 0x40000000) ((sleeper 5).loadWord (0x40000000 + 4)) =
        500 := by
  have hfour : UInt32.ofBitVec (nanosleepTicks ((sleeper 4).loadWord 0x40000000)
      ((sleeper 4).loadWord (0x40000000 + 4))) = 400 := by decide
  have hfive : UInt32.ofBitVec (nanosleepTicks ((sleeper 5).loadWord 0x40000000)
      ((sleeper 5).loadWord (0x40000000 + 4))) = 71 := by decide
  refine ⟨?_, ?_, ?_⟩
  · rw [nanosleepCall_eq sleeper_passes.1, hfour]
  · rw [nanosleepCall_eq sleeper_passes.2, hfive]
  · rw [requestedTicks_eq]
    decide

end NeuroSpark
