import Mathlib.Data.List.Basic

namespace PigweedExperimental

/-! # Lifetimes in a piece of storage

Storage that holds values of several kinds, one at a time, is described by the
events of its values. This file names nothing of a particular program.
-/

/-- What happens to a value of some kind in the storage. -/
inductive LifetimeEvent (Kind : Type u) where
  | construct (kind : Kind)
  | assign (kind : Kind)
  | destroy (kind : Kind)
  deriving DecidableEq, Repr

/-- Whole lifetimes, one after another: each value is constructed where none is
alive, then only assigned to as what it is, and destroyed once. -/
inductive Lifetimes {Kind : Type u} : List (LifetimeEvent Kind) → Prop
  | nil : Lifetimes []
  | lifetime {earlier : List (LifetimeEvent Kind)} (kind : Kind) (assignments : Nat) :
      Lifetimes earlier →
      Lifetimes (earlier ++
        .construct kind :: (List.replicate assignments (.assign kind) ++ [.destroy kind]))

/-- Whole lifetimes and then one that has not ended: a value is alive. -/
def Alive {Kind : Type u} (kind : Kind) (events : List (LifetimeEvent Kind)) : Prop :=
  ∃ earlier assignments, Lifetimes earlier ∧
    events = earlier ++ .construct kind :: List.replicate assignments (.assign kind)

namespace Lifetimes

variable {Kind : Type u} {events : List (LifetimeEvent Kind)}

theorem construct (lifetimes : Lifetimes events) (kind : Kind) :
    Alive kind (events ++ [.construct kind]) :=
  ⟨events, 0, lifetimes, rfl⟩

end Lifetimes

namespace Alive

variable {Kind : Type u} {kind : Kind} {events : List (LifetimeEvent Kind)}

theorem fresh (kind : Kind) : Alive kind [.construct kind] :=
  Lifetimes.nil.construct kind

theorem assign (alive : Alive kind events) : Alive kind (events ++ [.assign kind]) := by
  rcases alive with ⟨earlier, assignments, lifetimes, rfl⟩
  refine ⟨earlier, assignments + 1, lifetimes, ?_⟩
  rw [List.append_assoc, List.cons_append, ← List.replicate_succ']

theorem destroy (alive : Alive kind events) : Lifetimes (events ++ [.destroy kind]) := by
  rcases alive with ⟨earlier, assignments, lifetimes, rfl⟩
  rw [List.append_assoc, List.cons_append]
  exact .lifetime kind assignments lifetimes

end Alive

end PigweedExperimental
