import Mathlib.Algebra.Order.Ring.Int

namespace PigweedExperimental

/-! # Counting loops

`for (i = 0; i < count; i++)` is `Nat.fold`; between two `int` bounds it is
`forRange`, and where the body can fail `forUp`. Each has one rule, with an
invariant indexed by the counter; `forUp` has another one for the exits it avoids.
-/

theorem fold_invariant (invariant : Nat → State → Prop) {count : Nat}
    {body : (index : Nat) → index < count → State → State} {state : State}
    (initially : invariant 0 state)
    (kept : ∀ index (inRange : index < count) state, invariant index state →
      invariant (index + 1) (body index inRange state)) :
    invariant count (count.fold body state) := by
  induction count with
  | zero => exact initially
  | succ count induction =>
      rw [Nat.fold_succ]
      apply kept
      apply induction
      intro index inRange
      exact kept index (Nat.lt_succ_of_lt inRange)

/-- `for (int i = first; i < last; i++)`. The body may use the bounds of its
counter. -/
def forRange (first last : Int)
    (body : (index : Int) → first ≤ index ∧ index < last → State → State)
    (state : State) : State :=
  (last - first).toNat.fold
    (fun offset inRange state => body (first + offset) (by omega) state) state

/-- The counter ends at the upper bound, unless the loop does not run at all. -/
theorem forRange_invariant (invariant : Int → State → Prop) {first last : Int}
    {body : (index : Int) → first ≤ index ∧ index < last → State → State} {state : State}
    (initially : invariant first state)
    (kept : ∀ index (inRange : first ≤ index ∧ index < last) state, invariant index state →
      invariant (index + 1) (body index inRange state)) :
    invariant (max first last) (forRange first last body state) := by
  have ran : invariant (first + (last - first).toNat)
      (forRange first last body state) := by
    apply fold_invariant (fun offset state => invariant (first + offset) state)
    · rw [Nat.cast_zero, add_zero]
      exact initially
    · intro offset inRange current holds
      rw [Nat.cast_succ, ← add_assoc]
      exact kept (first + offset) (by omega) current holds
  rw [show first + ((last - first).toNat : Int) = max first last by omega] at ran
  exact ran

/-- The loop stops with the first iteration that exits. -/
def forUp (count : Nat) (body : Nat → State → Except Exit State) (state : State) :
    Except Exit State :=
  match count with
  | 0 => .ok state
  | count + 1 => (forUp count body state).bind (body count)

/-- A loop runs to its end exactly when every iteration does, where the
invariant decides whether an iteration does. -/
theorem forUp_ok_iff (invariant : Nat → State → Prop) (good : Nat → Prop)
    {count : Nat} {body : Nat → State → Except Exit State} {state : State}
    (initially : invariant 0 state)
    (exactBody : ∀ index state, index < count → invariant index state →
      ((∃ next, body index state = .ok next) ↔ good index))
    (kept : ∀ index state next, index < count → invariant index state →
      body index state = .ok next → invariant (index + 1) next) :
    ((∃ last, forUp count body state = .ok last) ↔ ∀ index < count, good index) ∧
      ∀ last, forUp count body state = .ok last → invariant count last := by
  induction count with
  | zero =>
      refine ⟨iff_of_true ⟨state, rfl⟩ nofun, ?_⟩
      intro last done
      cases done
      exact initially
  | succ count induction =>
      rcases induction (fun index state inRange => exactBody index state (by omega))
        (fun index state next inRange => kept index state next (by omega)) with
        ⟨earlier, reached⟩
      constructor
      · rw [Nat.forall_lt_succ_right, ← earlier]
        constructor
        · intro done
          rcases done with ⟨last, done⟩
          cases before : forUp count body state with
          | error =>
              rw [forUp, before] at done
              cases done
          | ok middle =>
              rw [forUp, before] at done
              exact ⟨⟨middle, rfl⟩,
                (exactBody count middle (by omega) (reached middle before)).mp ⟨last, done⟩⟩
        · intro both
          rcases both with ⟨⟨middle, before⟩, isGood⟩
          rcases (exactBody count middle (by omega) (reached middle before)).mpr isGood with
            ⟨last, done⟩
          exact ⟨last, by rw [forUp, before]; exact done⟩
      · intro last done
        cases before : forUp count body state with
        | error =>
            rw [forUp, before] at done
            cases done
        | ok middle =>
            rw [forUp, before] at done
            exact kept count middle last (by omega) (reached middle before) done

/-- A computation is not left by an exit of some kind. -/
def Avoids (bad : Exit → Prop) (result : Except Exit State) : Prop :=
  ∀ exit, result = .error exit → ¬bad exit

theorem avoids_ok {bad : Exit → Prop} (state : State) : Avoids bad (.ok state) := nofun

theorem avoids_error_iff {bad : Exit → Prop} {exit : Exit} :
    Avoids bad (.error exit : Except Exit State) ↔ ¬bad exit := by
  constructor
  · intro avoids
    exact avoids exit rfl
  · intro isGood other same
    cases same
    exact isGood

theorem avoids_bind_iff {bad : Exit → Prop} {value : Except Exit State}
    {next : State → Except Exit Result} :
    Avoids bad (value.bind next) ↔
      Avoids bad value ∧ ∀ middle, value = .ok middle → Avoids bad (next middle) := by
  cases value with
  | error exit =>
      rw [avoids_error_iff]
      constructor
      · intro avoids
        exact ⟨avoids exit rfl, nofun⟩
      · intro both
        exact avoids_error_iff.mpr both.1
  | ok middle =>
      constructor
      · intro avoids
        refine ⟨avoids_ok middle, ?_⟩
        intro _ same
        cases same
        exact avoids
      · intro both
        exact both.2 middle rfl

/-- A computation ends with a property, if not by an exit, and then not by a bad one. -/
structure Yields (bad : Exit → Prop) (property : State → Prop) (result : Except Exit State) :
    Prop where
  avoids : Avoids bad result
  holds : ∀ state, result = .ok state → property state

namespace Yields

variable {bad : Exit → Prop} {property : State → Prop}

theorem ok {state : State} (holds : property state) :
    Yields bad property (.ok state : Except Exit State) := by
  refine ⟨avoids_ok state, ?_⟩
  intro other same
  cases same
  exact holds

theorem error {exit : Exit} (isGood : ¬bad exit) :
    Yields bad property (.error exit : Except Exit State) :=
  ⟨avoids_error_iff.mpr isGood, nofun⟩

theorem bind {value : Except Exit State} {next : State → Except Exit Result}
    {property' : Result → Prop} (first : Yields bad property value)
    (second : ∀ middle, property middle → Yields bad property' (next middle)) :
    Yields bad property' (value.bind next) := by
  cases value with
  | error exit => exact error (avoids_error_iff.mp first.avoids)
  | ok middle => exact second middle (first.holds middle rfl)

/-- An invariant that every iteration keeps holds at the end of a loop. -/
theorem forUp (invariant : Nat → State → Prop) {count : Nat}
    {body : Nat → State → Except Exit State} {state : State} (initially : invariant 0 state)
    (kept : ∀ index state, index < count → invariant index state →
      Yields bad (invariant (index + 1)) (body index state)) :
    Yields bad (invariant count) (forUp count body state) := by
  induction count with
  | zero => exact .ok initially
  | succ count induction =>
      have earlier := induction fun index state inRange => kept index state (by omega)
      exact earlier.bind fun middle holds => kept count middle (Nat.lt_succ_self count) holds

end Yields

/-- An iteration counts only if no earlier one has left the loop. Each is left by
a bad exit unless it is good, and if it is good, by another exit unless it
passes. -/
theorem forUp_avoids_iff {bad : Exit → Prop} (invariant : Nat → State → Prop)
    (good passes : Nat → Prop) {count : Nat} {body : Nat → State → Except Exit State}
    {state : State} (initially : invariant 0 state)
    (avoidsBody : ∀ index state, index < count → invariant index state →
      (Avoids bad (body index state) ↔ good index))
    (exactBody : ∀ index state, index < count → invariant index state →
      ((∃ next, body index state = .ok next) ↔ good index ∧ passes index))
    (kept : ∀ index state next, index < count → invariant index state →
      body index state = .ok next → invariant (index + 1) next) :
    Avoids bad (forUp count body state) ↔
      ∀ index < count, (∀ earlier < index, passes earlier) → good index := by
  induction count with
  | zero => exact iff_of_true (avoids_ok state) nofun
  | succ count induction =>
      have earlier := induction (fun index state inRange => avoidsBody index state (by omega))
        (fun index state inRange => exactBody index state (by omega))
        (fun index state next inRange => kept index state next (by omega))
      have completes := forUp_ok_iff invariant (fun index => good index ∧ passes index) initially
        (fun index state (inRange : index < count) => exactBody index state (by omega))
        (fun index state next inRange => kept index state next (by omega))
      rw [forUp, avoids_bind_iff, earlier, Nat.forall_lt_succ_right]
      apply and_congr_right
      intro allGood
      constructor
      · intro avoids allPass
        have ran : ∃ middle, forUp count body state = .ok middle := by
          apply completes.1.mpr
          intro index inRange
          refine ⟨allGood index inRange fun before less => ?_, allPass index inRange⟩
          exact allPass before (Nat.lt_trans less inRange)
        rcases ran with ⟨middle, ran⟩
        exact (avoidsBody count middle (Nat.lt_succ_self count) (completes.2 middle ran)).mp
          (avoids middle ran)
      · intro lastGood middle ran
        have allPass (index : Nat) (inRange : index < count) : passes index :=
          (completes.1.mp ⟨middle, ran⟩ index inRange).2
        exact (avoidsBody count middle (Nat.lt_succ_self count) (completes.2 middle ran)).mpr
          (lastGood allPass)

end PigweedExperimental
