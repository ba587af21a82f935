import Mathlib.Data.List.Basic
import Mathlib.Data.Fin.Basic
import Mathlib.Tactic.Ring
import Mathlib.Tactic.Common

/-!
# Byte arrays of a fixed size and little-endian words

`Bytes n` is the contents of a buffer of `n` bytes. It is read with a natural number as index
(`Bytes.get`, zero past the end) and written with `Bytes.patch`, which copies a list of bytes to
an offset and drops what falls past the end. Words are stored least significant byte first.
-/

/-- The contents of a buffer of `n` bytes. -/
abbrev Bytes (n : Nat) := Fin n → UInt8

namespace Bytes

variable {n : Nat}

/-- The byte at an index, `0` past the end. -/
def get (b : Bytes n) (k : Nat) : UInt8 := if h : k < n then b ⟨k, h⟩ else 0

/-- The buffer holding the first `n` values of a function. -/
def ofFun (f : Nat → UInt8) : Bytes n := fun i => f i

/-- The buffer of `n` zero bytes. -/
def zero : Bytes n := fun _ => 0

lemma get_ofFun (f : Nat → UInt8) {k : Nat} (hk : k < n) : (ofFun f : Bytes n).get k = f k := by
  simp [get, ofFun, hk]

@[simp] lemma get_zero (k : Nat) : (zero : Bytes n).get k = 0 := by
  simp [get, zero]

lemma ext_get {b c : Bytes n} (h : ∀ k, k < n → b.get k = c.get k) : b = c := by
  funext i
  simpa [get] using h i i.isLt

instance decidableEq : DecidableEq (Bytes n) := fun b c =>
  decidable_of_iff (∀ i, b i = c i) funext_iff.symm

/-! ### Copying a list into a buffer -/

/-- Copy the bytes of `l` to offset `off`. -/
def patch (b : Bytes n) (off : Nat) (l : List UInt8) : Bytes n :=
  ofFun fun k => if off ≤ k then (l[k - off]?).getD (b.get k) else b.get k

lemma get_patch_of_lt (b : Bytes n) {off k : Nat} (l : List UInt8) (hk : k < off) :
    (b.patch off l).get k = b.get k := by
  by_cases hn : k < n
  · rw [patch, get_ofFun _ hn, if_neg (by omega)]
  · simp [get, hn]

lemma get_patch_of_ge (b : Bytes n) {off k : Nat} (l : List UInt8) (hk : off + l.length ≤ k) :
    (b.patch off l).get k = b.get k := by
  by_cases hn : k < n
  · rw [patch, get_ofFun _ hn, if_pos (by omega), List.getElem?_eq_none (by omega)]
    rfl
  · simp [get, hn]

lemma get_patch_of_mem (b : Bytes n) (off j : Nat) (l : List UInt8) (hj : j < l.length)
    (hn : off + j < n) : (b.patch off l).get (off + j) = l[j] := by
  rw [patch, get_ofFun _ hn, if_pos (by omega), Nat.add_sub_cancel_left,
    List.getElem?_eq_getElem hj]
  rfl

lemma patch_append (b : Bytes n) (off : Nat) (l m : List UInt8) :
    b.patch off (l ++ m) = (b.patch off l).patch (off + l.length) m := by
  apply ext_get
  intro k hk
  simp only [patch, get_ofFun _ hk]
  by_cases hoff : off ≤ k
  · by_cases hl : off + l.length ≤ k
    · rw [if_pos hoff, if_pos hl, if_pos hoff, List.getElem?_append_right (by omega),
        List.getElem?_eq_none (l := l) (by omega), Nat.sub_sub]
      rfl
    · rw [if_pos hoff, if_neg hl, if_pos hoff, List.getElem?_append_left (by omega)]
  · rw [if_neg hoff, if_neg (by omega), if_neg hoff]

lemma patch_eq_self (b : Bytes n) {off : Nat} {l : List UInt8}
    (h : ∀ j (hj : j < l.length), off + j < n → b.get (off + j) = l[j]) : b.patch off l = b := by
  apply ext_get
  intro k hk
  by_cases hoff : off ≤ k
  · by_cases hl : k - off < l.length
    · have hget := get_patch_of_mem b off (k - off) l hl (by omega)
      have hb := h (k - off) hl (by omega)
      rw [Nat.add_sub_cancel' hoff] at hget hb
      rw [hget, hb]
    · exact get_patch_of_ge b l (by omega)
  · exact get_patch_of_lt b l (by omega)

/-- The first bytes of a buffer, padded with zeros when it is shorter. -/
def resize {m : Nat} (b : Bytes n) : Bytes m := ofFun b.get

/-- Replace the start of `b` by `c`. -/
def overlay {m : Nat} (b : Bytes n) (c : Bytes m) : Bytes n :=
  ofFun fun k => if k < m then c.get k else b.get k

lemma get_resize {m : Nat} (b : Bytes n) {k : Nat} (hk : k < m) :
    (b.resize : Bytes m).get k = b.get k := get_ofFun _ hk

lemma overlay_resize {m : Nat} (b : Bytes n) : b.overlay (b.resize : Bytes m) = b := by
  apply ext_get
  intro k hk
  rw [overlay, get_ofFun _ hk]
  split_ifs with hm
  · exact get_resize b hm
  · rfl

lemma resize_overlay {m : Nat} (b : Bytes n) (c : Bytes m) (h : m ≤ n) :
    ((b.overlay c).resize : Bytes m) = c := by
  apply ext_get
  intro k hk
  rw [get_resize _ hk, overlay, get_ofFun _ (Nat.lt_of_lt_of_le hk h), if_pos hk]

lemma overlay_overlay {m : Nat} (b : Bytes n) (c : Bytes m) :
    (b.overlay c).overlay c = b.overlay c := by
  apply ext_get
  intro k hk
  rw [overlay, get_ofFun _ hk]
  split_ifs with hm
  · rw [overlay, get_ofFun _ hk, if_pos hm]
  · rfl

/-- The `w` bytes from offset `off`. -/
def slice (b : Bytes n) (off w : Nat) : List UInt8 := (List.range w).map fun k => b.get (off + k)

@[simp] lemma length_slice (b : Bytes n) (off w : Nat) : (b.slice off w).length = w := by
  simp [slice]

@[simp] lemma getElem_slice (b : Bytes n) (off w k : Nat) (hk : k < (b.slice off w).length) :
    (b.slice off w)[k] = b.get (off + k) := by
  simp [slice]

lemma slice_congr {b c : Bytes n} {off w : Nat}
    (h : ∀ k, off ≤ k → k < off + w → b.get k = c.get k) : b.slice off w = c.slice off w := by
  apply List.map_congr_left
  intro k hk
  rw [List.mem_range] at hk
  exact h _ (by omega) (by omega)

lemma slice_add (b : Bytes n) (off v w : Nat) :
    b.slice off (v + w) = b.slice off v ++ b.slice (off + v) w := by
  simp [slice, List.range_add, Nat.add_assoc]

lemma slice_take (b : Bytes n) (off w m : Nat) :
    (b.slice off w).take m = b.slice off (min m w) := by
  rw [slice, slice, ← List.map_take, List.take_range]

lemma slice_drop (b : Bytes n) (off w m : Nat) :
    (b.slice off w).drop m = b.slice (off + m) (w - m) := by
  apply List.ext_getElem
  · simp
  · simp [Nat.add_assoc]

lemma slice_patch_same (b : Bytes n) (off : Nat) (l : List UInt8) (hn : off + l.length ≤ n) :
    (b.patch off l).slice off l.length = l := by
  apply List.ext_getElem (by simp)
  intro k hk hk'
  rw [getElem_slice, get_patch_of_mem b _ _ l hk' (by omega)]

lemma slice_patch_disjoint (b : Bytes n) (off : Nat) (l : List UInt8) (off' w : Nat)
    (h : off' + w ≤ off ∨ off + l.length ≤ off') :
    (b.patch off l).slice off' w = b.slice off' w := by
  apply slice_congr
  intro k hk hk'
  rcases h with h | h
  · exact get_patch_of_lt b l (by omega)
  · exact get_patch_of_ge b l (by omega)

lemma patch_slice_all (b c : Bytes n) : b.patch 0 (c.slice 0 n) = c := by
  apply ext_get
  intro k hk
  have h := get_patch_of_mem b 0 k (c.slice 0 n) (by simpa using hk) (by omega)
  rw [Nat.zero_add] at h
  rw [h, getElem_slice, Nat.zero_add]

end Bytes

/-! ### Little-endian words -/

namespace Le

/-- The value of a word, least significant byte first. -/
def value : List UInt8 → Nat
  | [] => 0
  | b :: bs => b.toNat + 256 * value bs

/-- The `w` bytes of a word, least significant first. -/
def bytes : Nat → Nat → List UInt8
  | 0, _ => []
  | w + 1, v => UInt8.ofNat v :: bytes w (v / 256)

@[simp] lemma length_bytes (w v : Nat) : (bytes w v).length = w := by
  induction w generalizing v with
  | zero => rfl
  | succ w ih => simp [bytes, ih]

/-- Byte `j` of a word. -/
def byte (v j : Nat) : UInt8 := UInt8.ofNat (v / 256 ^ j)

lemma bytes_eq_map (w v : Nat) : bytes w v = (List.range w).map (byte v) := by
  induction w generalizing v with
  | zero => rfl
  | succ w ih =>
    rw [bytes, ih, List.range_succ_eq_map, List.map_cons, List.map_map]
    congr 1
    · simp [byte]
    · apply List.map_congr_left
      intro j _
      rw [Function.comp_apply, byte, byte, Nat.div_div_eq_div_mul, Nat.pow_succ']

lemma value_lt (bs : List UInt8) : value bs < 256 ^ bs.length := by
  induction bs with
  | nil => simp [value]
  | cons b bs ih =>
    have hb : b.toNat < 256 := b.toNat_lt
    rw [value, List.length_cons, pow_succ]
    omega

lemma value_bytes (w v : Nat) : value (bytes w v) = v % 256 ^ w := by
  induction w generalizing v with
  | zero => simp [bytes, value, Nat.mod_one]
  | succ w ih =>
    have hb : (UInt8.ofNat v).toNat = v % 256 := by simp
    rw [bytes, value, ih, hb, pow_succ, Nat.mul_comm (256 ^ w) 256, Nat.mod_mul]

lemma value_bytes_of_lt {w v : Nat} (h : v < 256 ^ w) : value (bytes w v) = v := by
  rw [value_bytes, Nat.mod_eq_of_lt h]

lemma bytes_value (bs : List UInt8) : bytes bs.length (value bs) = bs := by
  induction bs with
  | nil => rfl
  | cons b bs ih =>
    have hb : b.toNat < 256 := b.toNat_lt
    have hdiv : (b.toNat + 256 * value bs) / 256 = value bs := by omega
    have hmod : UInt8.ofNat (b.toNat + 256 * value bs) = b := by
      simp
    rw [List.length_cons, value, bytes, hdiv, ih, hmod]

end Le

namespace Bytes

variable {n : Nat}

/-- The 16-bit word at an offset. -/
def le16 (b : Bytes n) (off : Nat) : Nat := Le.value (b.slice off 2)

/-- The 32-bit word at an offset. -/
def le32 (b : Bytes n) (off : Nat) : Nat := Le.value (b.slice off 4)

/-- Store a 16-bit word, dropping the bits above it. -/
def setLe16 (b : Bytes n) (off v : Nat) : Bytes n := b.patch off (Le.bytes 2 v)

/-- Store a 32-bit word, dropping the bits above it. -/
def setLe32 (b : Bytes n) (off v : Nat) : Bytes n := b.patch off (Le.bytes 4 v)

lemma le32_lt (b : Bytes n) (off : Nat) : b.le32 off < 4294967296 := by
  simpa [le32] using Le.value_lt (b.slice off 4)

lemma bytes_le32 (b : Bytes n) (off : Nat) : Le.bytes 4 (b.le32 off) = b.slice off 4 := by
  have h := Le.bytes_value (b.slice off 4)
  rwa [length_slice] at h

lemma setLe32_le32 (b : Bytes n) (off : Nat) : b.setLe32 off (b.le32 off) = b := by
  rw [setLe32, bytes_le32]
  apply patch_eq_self
  intro j hj _
  rw [getElem_slice]

lemma le16_congr {m : Nat} {b : Bytes n} {c : Bytes m} {off off' : Nat}
    (h : ∀ k, k < 2 → b.get (off + k) = c.get (off' + k)) : b.le16 off = c.le16 off' := by
  have hs : b.slice off 2 = c.slice off' 2 :=
    List.map_congr_left fun k hk => h k (List.mem_range.mp hk)
  rw [le16, le16, hs]

lemma le32_congr {m : Nat} {b : Bytes n} {c : Bytes m} {off off' : Nat}
    (h : ∀ k, k < 4 → b.get (off + k) = c.get (off' + k)) : b.le32 off = c.le32 off' := by
  have hs : b.slice off 4 = c.slice off' 4 :=
    List.map_congr_left fun k hk => h k (List.mem_range.mp hk)
  rw [le32, le32, hs]

lemma le32_of_bytes {b : Bytes n} {off v : Nat} (hv : v < 4294967296)
    (h : ∀ j, j < 4 → b.get (off + j) = Le.byte v j) : b.le32 off = v := by
  have hs : b.slice off 4 = Le.bytes 4 v := by
    rw [Le.bytes_eq_map]
    exact List.map_congr_left fun j hj => h j (List.mem_range.mp hj)
  rw [le32, hs, Le.value_bytes_of_lt (by simpa using hv)]

lemma le32_setLe32_same (b : Bytes n) {off : Nat} (v : Nat) (hn : off + 4 ≤ n) :
    (b.setLe32 off v).le32 off = v % 4294967296 := by
  have h := slice_patch_same b off (Le.bytes 4 v) (by simpa using hn)
  rw [Le.length_bytes] at h
  rw [le32, setLe32, h, Le.value_bytes]
  rfl

lemma le32_setLe32_disjoint (b : Bytes n) {off off' : Nat} (v : Nat)
    (h : off' + 4 ≤ off ∨ off + 4 ≤ off') : (b.setLe32 off v).le32 off' = b.le32 off' := by
  rw [le32, setLe32, slice_patch_disjoint _ _ _ _ _ (by simpa using h), ← le32]

lemma get_setLe16 (b : Bytes n) {off k : Nat} (v : Nat) (hk : k < off ∨ off + 2 ≤ k) :
    (b.setLe16 off v).get k = b.get k := by
  rcases hk with hk | hk
  · exact get_patch_of_lt _ _ hk
  · exact get_patch_of_ge _ _ (by simpa using hk)

lemma get_setLe32 (b : Bytes n) {off k : Nat} (v : Nat) (hk : k < off ∨ off + 4 ≤ k) :
    (b.setLe32 off v).get k = b.get k := by
  rcases hk with hk | hk
  · exact get_patch_of_lt _ _ hk
  · exact get_patch_of_ge _ _ (by simpa using hk)

lemma le16_setLe16_same (b : Bytes n) {off : Nat} (v : Nat) (hn : off + 2 ≤ n) :
    (b.setLe16 off v).le16 off = v % 65536 := by
  have h := slice_patch_same b off (Le.bytes 2 v) (by simpa using hn)
  rw [Le.length_bytes] at h
  rw [le16, setLe16, h, Le.value_bytes]
  rfl

end Bytes
