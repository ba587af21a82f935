import Mathlib.Algebra.GroupWithZero.Nat
import Mathlib.Tactic.Common

/-!
# Sizes of tables

A table with `n` entries is a function on `Fin n`, whose numerals need that `n` is not zero. For the
sizes in use this is said here, once for each, so that the number of an entry is the same term
wherever it is written.
-/

namespace Sizes

instance neZero_two : NeZero 2 := ⟨by decide⟩

instance neZero_four : NeZero 4 := ⟨by decide⟩

instance neZero_five : NeZero 5 := ⟨by decide⟩

instance neZero_eight : NeZero 8 := ⟨by decide⟩

instance neZero_twelve : NeZero 12 := ⟨by decide⟩

instance neZero_fifteen : NeZero 15 := ⟨by decide⟩

instance neZero_sixteen : NeZero 16 := ⟨by decide⟩

instance neZero_twentyFive : NeZero 25 := ⟨by decide⟩

instance neZero_thirtyTwo : NeZero 32 := ⟨by decide⟩

instance neZero_sixtyFour : NeZero 64 := ⟨by decide⟩

instance neZero_oneTwentyEight : NeZero 128 := ⟨by decide⟩

instance neZero_kilo : NeZero 1024 := ⟨by decide⟩

lemma sixteen_pos : 0 < 16 := by decide

end Sizes
