import Mathlib.Data.List.Basic

namespace PigweedExperimental

/-! # Runs that may stop short

A run with limits against the same run without them. Where the limited one has a
result, the other one has the same result.
-/

/-- Every result of the first is one of the second. -/
def Refines (first second : Option α) : Prop := ∀ result ∈ first, result ∈ second

namespace Refines

@[simp] theorem refl (result : Option α) : Refines result result := fun _ => id

@[simp] theorem none (second : Option α) : Refines Option.none second :=
  fun _ impossible => absurd impossible (Option.not_mem_none _)

theorem bind {first second : Option α} {next other : α → Option β}
    (refines : Refines first second)
    (nextRefines : ∀ result, Refines (next result) (other result)) :
    Refines (first.bind next) (second.bind other) := by
  intro last isLast
  rcases Option.bind_eq_some_iff.mp isLast with ⟨result, isResult, isNext⟩
  exact Option.bind_eq_some_iff.mpr
    ⟨result, refines result isResult, nextRefines result last isNext⟩

/-- Step by step along a list of inputs. -/
theorem foldlM {limited unlimited : σ → α → Option σ}
    (steps : ∀ state input, Refines (limited state input) (unlimited state input))
    (state : σ) (inputs : List α) :
    Refines (inputs.foldlM limited state) (inputs.foldlM unlimited state) := by
  induction inputs generalizing state with
  | nil => simp
  | cons input inputs induction =>
      simp only [List.foldlM_cons, Option.bind_eq_bind]
      exact (steps state input).bind induction

end Refines

end PigweedExperimental
