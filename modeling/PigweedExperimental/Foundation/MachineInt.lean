import Mathlib.Algebra.Order.Ring.Int

namespace PigweedExperimental

/-! # Counts as `int`

`static_cast<int>` keeps 32 bits of a count, with a sign.
-/

def staticCastInt (size : Nat) : Int :=
  (size : Int).bmod (2 ^ 32)

theorem staticCastInt_of_fits {size : Nat} (fits : size ≤ 2 ^ 31 - 1) :
    staticCastInt size = size := by
  apply Int.bmod_eq_of_le
  · omega
  · omega

/-- What an `int` can hold. -/
def FitsInt (value : Int) : Prop := -2 ^ 31 ≤ value ∧ value ≤ 2 ^ 31 - 1

end PigweedExperimental
