import Mathlib.Data.List.Basic
import Mathlib.Tactic.Common

/-!
# Network byte order and the Internet checksum

Words on the network are stored most significant byte first. The Internet checksum of a sequence of
bytes is the complement of the sum of its 16-bit words, in one's complement: what is carried out of
16 bits is added back. A sequence that holds its own checksum has the checksum 0.
-/

namespace Network

def be16 (v : Nat) : List UInt8 := [UInt8.ofNat (v / 256), UInt8.ofNat v]

def be32 (v : UInt32) : List UInt8 :=
  [UInt8.ofNat (v.toNat / 16777216), UInt8.ofNat (v.toNat / 65536), UInt8.ofNat (v.toNat / 256),
    UInt8.ofNat v.toNat]

/-- The word at an offset; bytes past the end are 0. -/
def readBe16 (src : List UInt8) (off : Nat) : Nat :=
  (src.getD off 0).toNat * 256 + (src.getD (off + 1) 0).toNat

def readBe32 (src : List UInt8) (off : Nat) : UInt32 :=
  UInt32.ofNat ((src.getD off 0).toNat * 16777216 + (src.getD (off + 1) 0).toNat * 65536 +
    (src.getD (off + 2) 0).toNat * 256 + (src.getD (off + 3) 0).toNat)

/-- Store a word over the bytes at an offset. -/
def writeBe16 (dst : List UInt8) (off v : Nat) : List UInt8 :=
  dst.take off ++ be16 v ++ dst.drop (off + 2)

@[simp] lemma length_be16 (v : Nat) : (be16 v).length = 2 := rfl

@[simp] lemma length_be32 (v : UInt32) : (be32 v).length = 4 := rfl

lemma readBe16_lt (src : List UInt8) (off : Nat) : readBe16 src off < 65536 := by
  have h₁ := (src.getD off 0).toNat_lt
  have h₂ := (src.getD (off + 1) 0).toNat_lt
  unfold readBe16
  omega

lemma ofNat_toNat_byte (v : Nat) : (UInt8.ofNat v).toNat = v % 256 := by simp

lemma be16_value {v : Nat} (h : v < 65536) :
    (UInt8.ofNat (v / 256)).toNat * 256 + (UInt8.ofNat v).toNat = v := by
  rw [ofNat_toNat_byte, ofNat_toNat_byte]
  omega

lemma readBe16_be16 {v : Nat} (h : v < 65536) (l : List UInt8) : readBe16 (be16 v ++ l) 0 = v :=
  be16_value h

lemma be32_value (v : UInt32) :
    UInt32.ofNat ((UInt8.ofNat (v.toNat / 16777216)).toNat * 16777216 +
      (UInt8.ofNat (v.toNat / 65536)).toNat * 65536 + (UInt8.ofNat (v.toNat / 256)).toNat * 256 +
      (UInt8.ofNat v.toNat).toNat) = v := by
  have hlt : v.toNat < 4294967296 := v.toNat_lt
  simp only [ofNat_toNat_byte]
  have hsum : v.toNat / 16777216 % 256 * 16777216 + v.toNat / 65536 % 256 * 65536 +
      v.toNat / 256 % 256 * 256 + v.toNat % 256 = v.toNat := by omega
  rw [hsum, UInt32.ofNat_toNat]

lemma length_writeBe16 {dst : List UInt8} {off : Nat} (v : Nat) (h : off + 2 ≤ dst.length) :
    (writeBe16 dst off v).length = dst.length := by
  simp only [writeBe16, List.length_append, List.length_take, List.length_drop, length_be16]
  omega

/-- The sum of the 16-bit words; an odd byte is the high half of the last one. -/
def wordSum : List UInt8 → Nat
  | [] => 0
  | [a] => a.toNat * 256
  | a :: b :: rest => a.toNat * 256 + b.toNat + wordSum rest

/-- Add what is above 16 bits to what is below, until nothing is above. -/
def foldCarry (sum : Nat) : Nat :=
  if sum / 65536 ≠ 0 then foldCarry (sum % 65536 + sum / 65536) else sum
termination_by sum
decreasing_by omega

def internetChecksum (data : List UInt8) : Nat := 65535 - foldCarry (wordSum data)

lemma foldCarry_eq (sum : Nat) : foldCarry sum = if sum = 0 then 0 else (sum - 1) % 65535 + 1 := by
  induction sum using foldCarry.induct with
  | case1 sum hcarry ih =>
    rw [foldCarry, if_pos hcarry, ih]
    split_ifs <;> omega
  | case2 sum hcarry =>
    rw [foldCarry, if_neg hcarry]
    split_ifs <;> omega

lemma foldCarry_le (sum : Nat) : foldCarry sum ≤ 65535 := by
  rw [foldCarry_eq]
  split_ifs <;> omega

lemma internetChecksum_lt (data : List UInt8) : internetChecksum data < 65536 := by
  unfold internetChecksum
  omega

lemma foldCarry_complement (sum : Nat) : foldCarry (sum + (65535 - foldCarry sum)) = 65535 := by
  simp only [foldCarry_eq]
  split_ifs <;> omega

lemma wordSum_append {l : List UInt8} (l' : List UInt8) (h : l.length % 2 = 0) :
    wordSum (l ++ l') = wordSum l + wordSum l' := by
  induction l using wordSum.induct with
  | case1 => simp [wordSum]
  | case2 a => simp at h
  | case3 a b rest ih =>
    have hrest : rest.length % 2 = 0 := by
      simp only [List.length_cons] at h
      omega
    simp only [List.cons_append, wordSum, ih hrest, Nat.add_assoc]

lemma wordSum_be16 {v : Nat} (h : v < 65536) : wordSum (be16 v) = v := by
  simpa [be16, wordSum] using be16_value h

/-- A header that holds its own checksum, computed with 0 in its place, verifies. -/
theorem internetChecksum_verifies (l l' : List UInt8) (h : l.length % 2 = 0) :
    internetChecksum (l ++ be16 (internetChecksum (l ++ be16 0 ++ l')) ++ l') = 0 := by
  have hsum : ∀ v < 65536, wordSum (l ++ be16 v ++ l') = wordSum (l ++ be16 0 ++ l') + v := by
    intro v hv
    have hword : ∀ w < 65536, wordSum (be16 w ++ l') = w + wordSum l' := by
      intro w hw
      rw [wordSum_append l' (by simp), wordSum_be16 hw]
    simp only [List.append_assoc, wordSum_append _ h, hword v hv, hword 0 (by omega)]
    omega
  generalize hsum₀ : wordSum (l ++ be16 0 ++ l') = sum at hsum
  have hcheck : internetChecksum (l ++ be16 0 ++ l') = 65535 - foldCarry sum := by
    rw [internetChecksum, hsum₀]
  rw [hcheck, internetChecksum, hsum _ (by omega), foldCarry_complement]

end Network
