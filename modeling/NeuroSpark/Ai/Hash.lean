import NeuroSpark.Lib.Mixing
import NeuroSpark.Vfs.Types

/-!
# Hashes of model packages

`mix_u32`, `hash_update` and `model_package_hash` of `ai_runtime.c`. Mixing is a bijection on 32-bit
words, so that a package hash changes with each single field and each single character of the name.
-/

namespace NeuroSpark.Ai

open Mixing

def mixU32 (x : UInt32) : UInt32 :=
  let x := x ^^^ (x >>> 16)
  let x := x * 0x7FEB352D
  let x := x ^^^ (x >>> 15)
  let x := x * 0x846CA68B
  x ^^^ (x >>> 16)

def hashInit : UInt32 := 0xC0FFEE11

def hashByte (h : UInt32) (b : UInt8) : UInt32 :=
  let h := h ^^^ b.toUInt32
  mixU32 (h + (0x9E3779B9 : UInt32) + (h <<< (6 : UInt32)) + (h >>> (2 : UInt32)))

def hashUpdate (h : UInt32) (data : List UInt8) : UInt32 := data.foldl hashByte h

/-- The arguments of `model_package_hash`. -/
structure PackageFields where
  name : CString
  kind : UInt32
  version : UInt32
  preferredBackend : UInt32
  seed : UInt32
  provenance : UInt32
  bias : Int32
  payloadBytes : UInt32
  artifactHash : UInt32
  schemaVersion : UInt32
  packageBytes : UInt32
  deriving DecidableEq

/-- A word is mixed into a hash. -/
def mixIn (h w : UInt32) : UInt32 := mixU32 (h ^^^ w)

/-- The words that follow the name. -/
def PackageFields.words (p : PackageFields) : List UInt32 :=
  [p.kind, p.version, p.preferredBackend, p.seed, p.provenance, p.bias.toUInt32, p.payloadBytes,
    p.artifactHash, p.schemaVersion, p.packageBytes]

def modelPackageHash (p : PackageFields) : UInt32 :=
  p.words.foldl mixIn (p.name.foldl (fun h c => mixIn h c.toUInt32) 0x5A17C0DE)

/-- Exactly one field, or one character of the name, is another one. -/
inductive PackageFields.Changed (p : PackageFields) : PackageFields → Prop
  | name {i : Nat} {c : UInt8} (hi : i < p.name.length) (h : c ≠ p.name[i]) :
    Changed p { p with name := p.name.set i c }
  | kind {v : UInt32} (h : v ≠ p.kind) : Changed p { p with kind := v }
  | version {v : UInt32} (h : v ≠ p.version) : Changed p { p with version := v }
  | preferredBackend {v : UInt32} (h : v ≠ p.preferredBackend) :
    Changed p { p with preferredBackend := v }
  | seed {v : UInt32} (h : v ≠ p.seed) : Changed p { p with seed := v }
  | provenance {v : UInt32} (h : v ≠ p.provenance) : Changed p { p with provenance := v }
  | bias {v : Int32} (h : v ≠ p.bias) : Changed p { p with bias := v }
  | payloadBytes {v : UInt32} (h : v ≠ p.payloadBytes) : Changed p { p with payloadBytes := v }
  | artifactHash {v : UInt32} (h : v ≠ p.artifactHash) : Changed p { p with artifactHash := v }
  | schemaVersion {v : UInt32} (h : v ≠ p.schemaVersion) : Changed p { p with schemaVersion := v }
  | packageBytes {v : UInt32} (h : v ≠ p.packageBytes) : Changed p { p with packageBytes := v }

lemma mixU32_bijective : Function.Bijective mixU32 := by
  have hmix : Function.Bijective fun x : BitVec 32 =>
      xorShift 16 (xorShift 15 (xorShift 16 x * 0x7FEB352D#32) * 0x846CA68B#32) := by
    have hfirst : (0x7FEB352D#32) * (0x1D69E2A5#32) = 1#32 := by decide
    have hsecond : (0x846CA68B#32) * (0x43021123#32) = 1#32 := by decide
    have hshift : ∀ k, 0 < k → Function.Bijective (xorShift k : BitVec 32 → BitVec 32) :=
      fun k hk => xorShift_bijective hk
    exact (hshift 16 (by decide)).comp ((mul_bijective hsecond).comp
      ((hshift 15 (by decide)).comp ((mul_bijective hfirst).comp (hshift 16 (by decide)))))
  constructor
  · intro x y hxy
    refine UInt32.toBitVec_inj.1 (hmix.1 ?_)
    exact congrArg UInt32.toBitVec hxy
  · intro y
    obtain ⟨x, hx⟩ := hmix.2 y.toBitVec
    exact ⟨⟨x⟩, UInt32.toBitVec_inj.1 hx⟩

lemma mixIn_injective_left (w : UInt32) : Function.Injective (mixIn · w) := by
  intro h h' heq
  have hxor := mixU32_bijective.1 heq
  simpa using hxor

lemma mixIn_injective_right (h : UInt32) : Function.Injective (mixIn h) := by
  intro w w' heq
  have hxor := mixU32_bijective.1 heq
  simpa using hxor

lemma modelPackageHash_ne_of_word {p q : PackageFields} (hname : q.name = p.name) {i : Nat}
    {u v : UInt32} (hu : p.words[i]? = some u) (hv : v ≠ u) (hwords : q.words = p.words.set i v) :
    modelPackageHash q ≠ modelPackageHash p := by
  obtain ⟨hi, rfl⟩ := List.getElem?_eq_some_iff.1 hu
  unfold modelPackageHash
  rw [hname, hwords]
  exact foldl_set_ne mixIn mixIn_injective_left mixIn_injective_right hi hv _

lemma modelPackageHash_ne_of_changed {p q : PackageFields} (h : p.Changed q) :
    modelPackageHash q ≠ modelPackageHash p := by
  cases h with
  | @name i c hi hc =>
    have hname := foldl_set_ne (fun h (c : UInt8) => mixIn h c.toUInt32)
      (fun c => mixIn_injective_left c.toUInt32)
      (fun h c c' heq => UInt8.toUInt32_inj.1 (mixIn_injective_right h heq)) hi hc 0x5A17C0DE
    exact fun heq => hname (foldl_injective mixIn_injective_left p.words heq)
  | kind hv => exact modelPackageHash_ne_of_word (i := 0) rfl rfl hv rfl
  | version hv => exact modelPackageHash_ne_of_word (i := 1) rfl rfl hv rfl
  | preferredBackend hv => exact modelPackageHash_ne_of_word (i := 2) rfl rfl hv rfl
  | seed hv => exact modelPackageHash_ne_of_word (i := 3) rfl rfl hv rfl
  | provenance hv => exact modelPackageHash_ne_of_word (i := 4) rfl rfl hv rfl
  | bias hv =>
    exact modelPackageHash_ne_of_word (i := 5) rfl rfl
      (fun heq => hv (Int32.toBitVec_inj.1 (congrArg UInt32.toBitVec heq))) rfl
  | payloadBytes hv => exact modelPackageHash_ne_of_word (i := 6) rfl rfl hv rfl
  | artifactHash hv => exact modelPackageHash_ne_of_word (i := 7) rfl rfl hv rfl
  | schemaVersion hv => exact modelPackageHash_ne_of_word (i := 8) rfl rfl hv rfl
  | packageBytes hv => exact modelPackageHash_ne_of_word (i := 9) rfl rfl hv rfl

/-- Mixing is a bijection, and a package hash changes when exactly one field or one character of the
name changes. -/
theorem modelPackageHash_detects : Function.Bijective mixU32 ∧ ∀ p q : PackageFields,
    p.Changed q → modelPackageHash q ≠ modelPackageHash p :=
  ⟨mixU32_bijective, fun _ _ => modelPackageHash_ne_of_changed⟩

/-- The second character of a name. -/
theorem modelPackageHash_detects_name :
    modelPackageHash ⟨[0x6D, 0x32], 1, 1, 0, 7, 3, -5, 0, 9, 0, 0⟩ ≠
      modelPackageHash ⟨[0x6D, 0x31], 1, 1, 0, 7, 3, -5, 0, 9, 0, 0⟩ :=
  modelPackageHash_detects.2 _ _ (.name (i := 1) (c := 0x32) (by decide) (by decide))

end NeuroSpark.Ai
