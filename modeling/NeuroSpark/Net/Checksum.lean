import NeuroSpark.Lib.Network
import NeuroSpark.Lib.Word

/-!
# The checksum in 32 bits

`internet_checksum` of `net.c` adds the words of a buffer in a 32-bit variable and folds what was
carried in a loop. For buffers shorter than 2^17 bytes the variable is large enough, and the
loop ends after two rounds with the Internet checksum.
-/

namespace NeuroSpark

open Network Word

variable {data : List UInt8}

/-- The loop over the words. An odd byte is the high half of the last one. -/
def addWords : Nat → List UInt8 → Nat
  | sum, [] => sum
  | sum, [a] => u32 (sum + a.toNat * 256)
  | sum, a :: b :: rest => addWords (u32 (sum + (a.toNat * 256 + b.toNat))) rest

/-- The sums that the loop stores, as they are before they are stored in 32 bits. -/
def accumulated : Nat → List UInt8 → List Nat
  | _, [] => []
  | sum, [a] => [sum + a.toNat * 256]
  | sum, a :: b :: rest =>
    (sum + (a.toNat * 256 + b.toNat)) :: accumulated (u32 (sum + (a.toNat * 256 + b.toNat))) rest

/-- The folding loop, as far as some rounds allow. -/
def foldWords : Nat → Nat → Option Nat
  | 0, _ => none
  | fuel + 1, sum =>
    if sum / 65536 = 0 then some sum else foldWords fuel (u32 (sum % 65536 + sum / 65536))

/-- `internet_checksum`, when its loop ends. -/
def internetChecksumLoop (fuel : Nat) (data : List UInt8) : Option Nat :=
  (foldWords fuel (addWords 0 data)).map fun sum => (4294967295 - sum) % 65536

lemma wordSum_le (data : List UInt8) : wordSum data ≤ 65535 * ((data.length + 1) / 2) := by
  induction data using wordSum.induct with
  | case1 => simp [wordSum]
  | case2 a =>
    have ha := a.toNat_lt
    simp only [wordSum, List.length_singleton]
    omega
  | case3 a b rest ih =>
    have ha := a.toNat_lt
    have hb := b.toNat_lt
    simp only [wordSum, List.length_cons]
    omega

lemma addWords_eq {sum : Nat} (h : sum + wordSum data < 4294967296) :
    addWords sum data = sum + wordSum data ∧ ∀ x ∈ accumulated sum data, x < 4294967296 := by
  induction data using wordSum.induct generalizing sum with
  | case1 => simp [addWords, accumulated, wordSum]
  | case2 a =>
    rw [wordSum] at h
    rw [addWords, accumulated, wordSum, u32_of_lt h, List.forall_mem_singleton]
    exact ⟨rfl, h⟩
  | case3 a b rest ih =>
    generalize hword : a.toNat * 256 + b.toNat = word
    rw [wordSum, hword, ← Nat.add_assoc] at h
    have hlt : sum + word < 4294967296 := Nat.lt_of_le_of_lt (Nat.le_add_right _ _) h
    obtain ⟨hsum, hacc⟩ := ih h
    rw [addWords, accumulated, wordSum, hword, u32_of_lt hlt, List.forall_mem_cons]
    exact ⟨hsum.trans (Nat.add_assoc _ _ _), hlt, hacc⟩

lemma foldWords_eq {sum fuel : Nat} (h : sum < 4294967296) (hfuel : 3 ≤ fuel) :
    foldWords fuel sum = some (foldCarry sum) := by
  obtain ⟨fuel, rfl⟩ : ∃ f, fuel = f + 3 := ⟨fuel - 3, by omega⟩
  have hfold : ∀ n < 65536, foldCarry n = n := fun n hn => by
    rw [foldCarry, if_neg (by omega)]
  have hstep : ∀ n, n / 65536 ≠ 0 → foldCarry n = foldCarry (n % 65536 + n / 65536) :=
    fun n hn => by rw [foldCarry, if_pos hn]
  rw [foldWords]
  split_ifs with hfirst
  · rw [hfold sum (by omega)]
  rw [hstep sum hfirst, foldWords, u32_of_lt (by omega)]
  generalize hn : sum % 65536 + sum / 65536 = n
  split_ifs with hsecond
  · rw [hfold n (by omega)]
  rw [hstep n hsecond, foldWords, u32_of_lt (by omega), if_pos (by omega), hfold _ (by omega)]

lemma internetChecksumLoop_eq (hlen : data.length < 131072) {fuel : Nat}
    (hfuel : 3 ≤ fuel) : internetChecksumLoop fuel data = some (internetChecksum data) := by
  have hsum := wordSum_le data
  have hlt : 0 + wordSum data < 4294967296 := by omega
  have hfold := foldCarry_le (wordSum data)
  rw [internetChecksumLoop, (addWords_eq hlt).1, Nat.zero_add,
    foldWords_eq (by omega) hfuel, Option.map_some, internetChecksum]
  congr 1
  omega

/-- A buffer in which its checksum replaces two zeros has the checksum 0. No sum overflows, and the
loop ends. -/
theorem internetChecksum_selfVerifying {data : List UInt8} (hlen : data.length < 131072) {o : Nat}
    (heven : o % 2 = 0) (ho : o + 1 < data.length) (h₀ : data[o]? = some 0)
    (h₁ : data[o + 1]? = some 0) :
    ∃ c < 65536, (∀ fuel ≥ 3, internetChecksumLoop fuel data = some c) ∧
      (∀ fuel ≥ 3, internetChecksumLoop fuel (writeBe16 data o c) = some 0) ∧
      (∀ x ∈ accumulated 0 data, x < 4294967296) ∧
      ∀ x ∈ accumulated 0 (writeBe16 data o c), x < 4294967296 := by
  have hlength : (writeBe16 data o (internetChecksum data)).length = data.length :=
    length_writeBe16 _ ho
  have hlen' : (writeBe16 data o (internetChecksum data)).length < 131072 := hlength ▸ hlen
  have hfits : ∀ l : List UInt8, l.length < 131072 → ∀ x ∈ accumulated 0 l, x < 4294967296 := by
    intro l hl
    have hsum := wordSum_le l
    have hlt : 0 + wordSum l < 4294967296 := by omega
    exact (addWords_eq hlt).2
  have hzeros : data = data.take o ++ be16 0 ++ data.drop (o + 2) := by
    have hget₀ : data[o] = 0 := (List.getElem?_eq_some_iff.1 h₀).2
    have hget₁ : data[o + 1] = 0 := (List.getElem?_eq_some_iff.1 h₁).2
    have hdrop : data.drop o = 0 :: 0 :: data.drop (o + 2) := by
      rw [List.drop_eq_getElem_cons (by omega), List.drop_eq_getElem_cons ho, hget₀, hget₁]
    rw [List.append_assoc]
    exact (List.take_append_drop o data).symm.trans (congrArg (data.take o ++ ·) hdrop)
  refine ⟨internetChecksum data, internetChecksum_lt data,
    fun fuel hfuel => internetChecksumLoop_eq hlen hfuel, fun fuel hfuel => ?_, hfits data hlen,
    hfits _ hlen'⟩
  rw [internetChecksumLoop_eq hlen' hfuel]
  have hverifies := internetChecksum_verifies (data.take o) (data.drop (o + 2)) (by
    rw [List.length_take]
    omega)
  rw [← hzeros] at hverifies
  exact congrArg some hverifies

/-- Five bytes with two zeros at offset 2. -/
theorem internetChecksum_selfVerifying_odd :
    ∃ c < 65536, (∀ fuel ≥ 3, internetChecksumLoop fuel [0x45, 1, 0, 0, 9] = some c) ∧
      (∀ fuel ≥ 3, internetChecksumLoop fuel (writeBe16 [0x45, 1, 0, 0, 9] 2 c) = some 0) ∧
      (∀ x ∈ accumulated 0 [0x45, 1, 0, 0, 9], x < 4294967296) ∧
      ∀ x ∈ accumulated 0 (writeBe16 [0x45, 1, 0, 0, 9] 2 c), x < 4294967296 :=
  internetChecksum_selfVerifying (by decide) (by decide) (by decide) rfl rfl

end NeuroSpark
