import Mathlib.Data.Nat.Periodic
import Mathlib.Algebra.Order.Ring.Nat

namespace PigweedExperimental

/-! # Triangle wave

Counting up to a top and down again, over and over. A turn takes twice the top;
in the course of it both ends are met once and everything between them twice.
-/

def triangleWave (top time : Nat) : Nat :=
  if time % (2 * top) ≤ top then
    time % (2 * top)
  else
    2 * top - time % (2 * top)

/-- The wave is on its way up. -/
def Rising (top time : Nat) : Prop := time % (2 * top) < top

instance : Decidable (Rising top time) := inferInstanceAs (Decidable (_ < _))

section Phase

variable {top : Nat} (positive : 0 < top)

include positive

theorem phase_lt (time : Nat) : time % (2 * top) < 2 * top :=
  Nat.mod_lt time (Nat.mul_pos Nat.two_pos positive)

theorem phase_next (time : Nat) :
    (time + 1) % (2 * top) =
      if time % (2 * top) + 1 = 2 * top then 0 else time % (2 * top) + 1 := by
  have phase := phase_lt positive time
  rw [Nat.add_mod, Nat.mod_eq_of_lt (show 1 < 2 * top by omega)]
  split
  case isTrue last => rw [last, Nat.mod_self]
  case isFalse inner => exact Nat.mod_eq_of_lt (by omega)

theorem triangleWave_up {time : Nat} (rising : Rising top time) :
    triangleWave top (time + 1) = triangleWave top time + 1 := by
  rw [Rising] at rising
  have next := phase_next positive time
  rw [if_neg (by omega)] at next
  rw [triangleWave, triangleWave, next, if_pos (Nat.succ_le_of_lt rising),
    if_pos (Nat.le_of_lt rising)]

theorem triangleWave_down {time : Nat} (falling : ¬Rising top time) :
    triangleWave top (time + 1) + 1 = triangleWave top time := by
  have phase := phase_lt positive time
  rw [Rising] at falling
  simp only [triangleWave, phase_next positive time]
  split_ifs <;> omega

/-- The wave turns where it meets one of its ends. -/
theorem rising_next_of_end {time : Nat}
    (atEnd : triangleWave top (time + 1) = 0 ∨ triangleWave top (time + 1) = top) :
    Rising top (time + 1) ↔ ¬Rising top time := by
  have phase := phase_lt positive time
  have next := phase_next positive time
  rw [triangleWave] at atEnd
  rw [Rising, Rising]
  split at next
  case isTrue last => omega
  case isFalse inner =>
    rw [next] at atEnd ⊢
    split at atEnd <;> omega

theorem rising_next_of_inner {time : Nat}
    (inner : ¬(triangleWave top (time + 1) = 0 ∨ triangleWave top (time + 1) = top)) :
    Rising top (time + 1) ↔ Rising top time := by
  have phase := phase_lt positive time
  have next := phase_next positive time
  rw [triangleWave] at inner
  rw [Rising, Rising]
  split at next
  case isTrue last =>
    rw [next, if_pos (Nat.zero_le top)] at inner
    omega
  case isFalse notLast =>
    rw [next] at inner ⊢
    split at inner <;> omega

end Phase

theorem triangleWave_le (top time : Nat) : triangleWave top time ≤ top := by
  rw [triangleWave]
  split <;> omega

theorem triangleWave_zero (top : Nat) : triangleWave top 0 = 0 := by
  rw [triangleWave, Nat.zero_mod, if_pos (Nat.zero_le top)]

theorem rising_zero {top : Nat} (positive : 0 < top) : Rising top 0 := by
  rw [Rising, Nat.zero_mod]
  exact positive

theorem triangleWave_periodic (top : Nat) : Function.Periodic (triangleWave top) (2 * top) := by
  intro time
  simp only [triangleWave, Nat.add_mod_right]

section Visits

variable {top value : Nat}

/-- Within the first turn a value is met on the way up and on the way down. -/
theorem triangleWave_eq_iff {time : Nat} (inTurn : time < 2 * top) :
    triangleWave top time = value ↔
      (time = value ∧ value ≤ top) ∨ (time = 2 * top - value ∧ value < top) := by
  rw [triangleWave, Nat.mod_eq_of_lt inTurn]
  split <;> omega

theorem visits_firstTurn (positive : 0 < top) (le : value ≤ top) :
    (2 * top).count (fun time => triangleWave top time = value) =
      if value = 0 ∨ value = top then 1 else 2 := by
  have visited : (Finset.range (2 * top)).filter (fun time => triangleWave top time = value) =
      (if value = 0 ∨ value = top then {value} else {value, 2 * top - value}) := by
    ext time
    rw [Finset.mem_filter, Finset.mem_range]
    split
    case isTrue atEnd =>
      rw [Finset.mem_singleton]
      constructor
      · intro visit
        have met := (triangleWave_eq_iff visit.1).mp visit.2
        omega
      · intro same
        have inTurn : time < 2 * top := by omega
        exact ⟨inTurn, (triangleWave_eq_iff inTurn).mpr (.inl ⟨same, le⟩)⟩
    case isFalse inner =>
      rw [Finset.mem_insert, Finset.mem_singleton]
      constructor
      · intro visit
        have met := (triangleWave_eq_iff visit.1).mp visit.2
        omega
      · intro either
        have inTurn : time < 2 * top := by omega
        exact ⟨inTurn, (triangleWave_eq_iff inTurn).mpr (by omega)⟩
  rw [Nat.count_eq_card_filter_range, visited]
  split
  case isTrue atEnd => exact Finset.card_singleton value
  case isFalse inner => exact Finset.card_pair (by omega)

/-- Every turn, wherever it starts, meets the ends once and the others twice. -/
theorem visits_turn (positive : 0 < top) (le : value ≤ top) (start : Nat) :
    ((Finset.Ico start (start + 2 * top)).filter
      fun time => triangleWave top time = value).card =
      if value = 0 ∨ value = top then 1 else 2 := by
  have periodic : Function.Periodic (fun time => triangleWave top time = value) (2 * top) := by
    intro time
    dsimp only
    rw [triangleWave_periodic top time]
  rw [Nat.filter_Ico_card_eq_of_periodic start (2 * top) _ periodic, visits_firstTurn positive le]

end Visits

end PigweedExperimental
