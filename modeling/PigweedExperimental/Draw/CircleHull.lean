import PigweedExperimental.Draw.Circle
import Mathlib.Data.Int.LeastGreatest
import Mathlib.Order.Bounds.Basic

namespace PigweedExperimental.Draw

/-! # A filled circle as the hull of its outline

Filling paints, in every row that the outline has points in, all places from the
first of them to the last one.
-/

section Rows

variable {radius a b : Int}

/-- The vertical axis is in the disc up to the radius. -/
theorem inDisc_axis (positive : 1 ≤ radius) (below : -radius ≤ b) (above : b ≤ radius) :
    InDisc radius 0 b := by
  have within : 0 ≤ (radius - b) * (radius + b) := mul_nonneg (by omega) (by omega)
  have square : 1 * 1 ≤ radius * radius := mul_le_mul positive positive (by decide) (by omega)
  have outside : excess radius 0 b = -((radius - b) * (radius + b)) := by
    rw [excess]
    ring
  dsimp only [InDisc]
  rw [outside]
  by_cases center : b = 0
  · rw [center, reach, Int.sub_zero, Int.add_zero]
    omega
  · rw [reach]
    omega

theorem InDisc.rows (inside : InDisc radius a b) (positive : 1 ≤ radius) :
    -radius ≤ b ∧ b ≤ radius := by
  have near := inside.reach_le (by omega)
  rw [reach] at near
  omega

/-- A row has a point of the outline farthest from the axis, and the disc ends
there. -/
theorem exists_farthest (positive : 1 ≤ radius) (below : -radius ≤ b) (above : b ≤ radius) :
    ∃ farthest, IsLeast {c | OnCircle radius c b} (-farthest) ∧
      IsGreatest {c | OnCircle radius c b} farthest ∧
      ∀ a, InDisc radius a b ↔ -farthest ≤ a ∧ a ≤ farthest := by
  have beside {a : Int} (inside : InDisc radius a b) :
      ∃ c, (a.natAbs : Int) ≤ c ∧ OnCircle radius c b := by
    rcases (inDisc_natAbs.mpr inside).beside (by omega) (by omega) positive with
      ⟨c, beyond, onCircle⟩
    exact ⟨c, beyond, onCircle.of_sizes (by omega)⟩
  have bounded (c : Int) (onCircle : OnCircle radius c b) : c ≤ radius := by
    have near := onCircle.2.reach_le (by omega)
    rw [reach] at near
    omega
  rcases beside (inDisc_axis positive below above) with ⟨some, _, onCircle⟩
  rcases Int.exists_greatest_of_bdd ⟨radius, bounded⟩ ⟨some, onCircle⟩ with
    ⟨farthest, isPoint, farther⟩
  refine ⟨farthest, ⟨isPoint.of_sizes (by omega), ?_⟩, ⟨isPoint, farther⟩, ?_⟩
  · intro c onCircle
    have opposite := farther (-c) (onCircle.of_sizes (by omega))
    omega
  · intro a
    constructor
    · intro inside
      rcases beside inside with ⟨c, beyond, onCircle⟩
      have less := farther c onCircle
      omega
    · intro between
      rw [← inDisc_natAbs, inDisc_comm]
      have inside := inDisc_comm.mp (inDisc_natAbs.mpr isPoint.2)
      exact inside.lower (by omega) (by omega) (by omega)

/-- Places that are inside by more than the radius, in squares, are in the disc. -/
theorem inDisc_of_excess_lt (positive : 1 ≤ radius) (inside : excess radius a b < -radius) :
    InDisc radius a b := by
  have nonneg : 0 ≤ reach a b := by
    rw [reach]
    omega
  rw [InDisc]
  omega

theorem not_inDisc_of_lt_excess (positive : 1 ≤ radius) (outside : radius < excess radius a b) :
    ¬InDisc radius a b := by
  intro inside
  have near := inside.reach_le (by omega)
  have upper := inside.1
  omega

end Rows

/-- Filling a circle paints the hull of its outline, row by row. -/
theorem drawCircle_filled_isHull {centerX centerY radius : Int} {penColor : UInt16}
    (positive : 1 ≤ radius) :
    (∀ a b, CircleSets centerX centerY radius penColor true a b →
      -radius ≤ b ∧ b ≤ radius) ∧
    (∀ b, -radius ≤ b → b ≤ radius →
      ∃ smallest largest,
        IsLeast {c | CircleSets centerX centerY radius penColor false c b} smallest ∧
        IsGreatest {c | CircleSets centerX centerY radius penColor false c b} largest ∧
        ∀ a, CircleSets centerX centerY radius penColor true a b ↔
          smallest ≤ a ∧ a ≤ largest) ∧
    (∀ a b, a * a + b * b < radius * radius - radius →
      CircleSets centerX centerY radius penColor true a b) ∧
    ∀ a b, radius * radius + radius < a * a + b * b →
      ¬CircleSets centerX centerY radius penColor true a b := by
  simp only [circleSets_filled positive, circleSets_outline positive]
  refine ⟨fun a b inside => inside.rows positive, ?_, ?_, ?_⟩
  · intro b below above
    rcases exists_farthest positive below above with ⟨farthest, least, greatest, row⟩
    exact ⟨-farthest, farthest, least, greatest, row⟩
  · intro a b inside
    apply inDisc_of_excess_lt positive
    rw [excess]
    omega
  · intro a b outside
    apply not_inDisc_of_lt_excess positive
    rw [excess]
    omega

theorem drawCircle_filled_isHull_three : ¬CircleSets 0 0 3 0 true 3 2 :=
  (drawCircle_filled_isHull (by decide)).2.2.2 3 2 (by decide)

end PigweedExperimental.Draw
