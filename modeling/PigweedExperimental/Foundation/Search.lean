import Mathlib.Data.List.Infix

namespace PigweedExperimental

/-! # Searching a text

The first and the last place where one list occurs inside another. This file
names nothing of a particular program.
-/

namespace Search

variable {α : Type u} [DecidableEq α]

/-- The index of the first occurrence. -/
def find (needle : List α) : List α → Option Nat
  | [] => if needle = [] then some 0 else none
  | first :: rest =>
      if needle <+: first :: rest then some 0 else (find needle rest).map (· + 1)

/-- The index of the last occurrence. -/
def rfind (needle : List α) : List α → Option Nat
  | [] => if needle = [] then some 0 else none
  | first :: rest =>
      match rfind needle rest with
      | some index => some (index + 1)
      | none => if needle <+: first :: rest then some 0 else none

theorem find_eq_none {needle text : List α} :
    find needle text = none ↔ ¬needle <:+: text := by
  induction text with
  | nil => simp [find]
  | cons first rest induction =>
      rw [find, List.infix_cons_iff, not_or]
      by_cases here : needle <+: first :: rest
      · simp [here]
      · simp [here, induction]

theorem rfind_eq_none {needle text : List α} :
    rfind needle text = none ↔ ¬needle <:+: text := by
  induction text with
  | nil => simp [rfind]
  | cons first rest induction =>
      rw [rfind, List.infix_cons_iff, not_or]
      cases later : rfind needle rest with
      | some index =>
          have occurs : needle <:+: rest := by
            by_contra absent
            rw [induction.mpr absent] at later
            cases later
          simp [occurs]
      | none => simp [induction.mp later]

/-- The last occurrence is one, and none starts after it. -/
theorem rfind_eq_some {needle text : List α} {index : Nat} (nonempty : needle ≠ [])
    (found : rfind needle text = some index) :
    needle <+: text.drop index ∧ ¬needle <:+: (text.drop index).tail := by
  induction text generalizing index with
  | nil => simp [rfind, nonempty] at found
  | cons first rest induction =>
      rw [rfind] at found
      cases later : rfind needle rest with
      | some after =>
          rw [later] at found
          cases found
          exact induction later
      | none =>
          rw [later] at found
          by_cases here : needle <+: first :: rest
          · simp only [here, if_true, Option.some.injEq] at found
            rw [← found]
            exact ⟨here, rfind_eq_none.mp later⟩
          · simp [here] at found

end Search

end PigweedExperimental
