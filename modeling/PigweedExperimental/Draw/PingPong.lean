import PigweedExperimental.Draw.SpriteSheet
import PigweedExperimental.Foundation.TriangleWave

namespace PigweedExperimental.Draw.SpriteSheet

/-! # Animation back and forth

Rotated again and again, a sprite sheet shows its frames up to the last and back
down to the first. The direction turns after the move that reaches an end.
-/

/-- The frame shown after that many rotations. -/
def shownAfter (spriteSheet : SpriteSheet) (rotations : Nat) : Int :=
  (rotateIndexPingPong^[rotations] spriteSheet).currentIndex

/-- Index and direction of a sheet whose last frame is `top`, as the wave has them. -/
structure InPhase (top rotations : Nat) (spriteSheet : SpriteSheet) : Prop where
  count_eq : spriteSheet.count = top + 1
  index_eq : spriteSheet.currentIndex = triangleWave top rotations
  direction_eq : spriteSheet.indexDirection = if Rising top rotations then 1 else -1

section Rotations

variable {spriteSheet : SpriteSheet} {top : Nat}

theorem moved_eq_triangleWave (positive : 0 < top) {rotations : Nat}
    (inPhase : InPhase top rotations spriteSheet) :
    spriteSheet.currentIndex + spriteSheet.indexDirection = triangleWave top (rotations + 1) := by
  rw [inPhase.index_eq, inPhase.direction_eq]
  split
  case isTrue rising =>
    rw [triangleWave_up positive rising]
    omega
  case isFalse falling =>
    have down := triangleWave_down positive falling
    omega

theorem InPhase.rotate (positive : 0 < top) {rotations : Nat}
    (inPhase : InPhase top rotations spriteSheet) :
    InPhase top (rotations + 1) spriteSheet.rotateIndexPingPong := by
  have moved := moved_eq_triangleWave positive inPhase
  have count_eq := inPhase.count_eq
  have atEnd_iff : ((triangleWave top (rotations + 1) : Nat) : Int) = 0 ∨
        ((triangleWave top (rotations + 1) : Nat) : Int) = spriteSheet.count - 1 ↔
      triangleWave top (rotations + 1) = 0 ∨ triangleWave top (rotations + 1) = top := by
    omega
  rw [rotateIndexPingPong]
  dsimp only
  rw [moved]
  simp only [atEnd_iff]
  split
  case isTrue atEnd =>
    refine ⟨count_eq, rfl, ?_⟩
    dsimp only
    rw [inPhase.direction_eq]
    simp only [rising_next_of_end positive atEnd]
    split_ifs <;> rfl
  case isFalse inner =>
    refine ⟨count_eq, rfl, ?_⟩
    dsimp only
    rw [inPhase.direction_eq]
    simp only [rising_next_of_inner positive inner]

theorem InPhase.iterate (positive : 0 < top) (inPhase : InPhase top 0 spriteSheet)
    (rotations : Nat) : InPhase top rotations (rotateIndexPingPong^[rotations] spriteSheet) := by
  induction rotations with
  | zero => exact inPhase
  | succ rotations induction =>
      rw [Function.iterate_succ_apply']
      exact induction.rotate positive

theorem Initial.inPhase (initial : spriteSheet.Initial) (positive : 0 < top)
    (count_eq : spriteSheet.count = top + 1) : InPhase top 0 spriteSheet := by
  refine ⟨count_eq, ?_, ?_⟩
  · rw [initial.atFirst, triangleWave_zero]
    rfl
  · rw [initial.upwards, if_pos (rising_zero positive)]

theorem shownAfter_eq (initial : spriteSheet.Initial) (positive : 0 < top)
    (count_eq : spriteSheet.count = top + 1) (rotations : Nat) :
    spriteSheet.shownAfter rotations = triangleWave top rotations :=
  (InPhase.iterate positive (initial.inPhase positive count_eq) rotations).index_eq

theorem shownAfter_next (initial : spriteSheet.Initial) (positive : 0 < top)
    (count_eq : spriteSheet.count = top + 1) (rotations : Nat) :
    spriteSheet.shownAfter (rotations + 1) = spriteSheet.shownAfter rotations + 1 ∨
      spriteSheet.shownAfter (rotations + 1) = spriteSheet.shownAfter rotations - 1 := by
  simp only [shownAfter_eq initial positive count_eq]
  by_cases rising : Rising top rotations
  case pos =>
    have up := triangleWave_up positive rising
    omega
  case neg =>
    have down := triangleWave_down positive rising
    omega

theorem visits_shownAfter (initial : spriteSheet.Initial) (positive : 0 < top)
    (count_eq : spriteSheet.count = top + 1) (start value : Nat) (le : value ≤ top) :
    ((Finset.Ico start (start + 2 * top)).filter
      fun rotations => spriteSheet.shownAfter rotations = value).card =
      if value = 0 ∨ value = top then 1 else 2 := by
  rw [← visits_turn positive le start]
  simp only [shownAfter_eq initial positive count_eq, Int.ofNat_inj]

/-- After any number of rotations the index is the triangle wave of that number.
Neighbouring frames follow each other, and each turn shows the two ends once and
every other frame twice. -/
theorem shownAfter_triangleWave (initial : spriteSheet.Initial) (two : 2 ≤ spriteSheet.count) :
    (∀ rotations : Nat, spriteSheet.shownAfter rotations =
      if (rotations : Int) % (2 * spriteSheet.count - 2) ≤ spriteSheet.count - 1 then
        (rotations : Int) % (2 * spriteSheet.count - 2)
      else
        2 * spriteSheet.count - 2 - (rotations : Int) % (2 * spriteSheet.count - 2)) ∧
    (∀ rotations : Nat,
      spriteSheet.shownAfter (rotations + 1) = spriteSheet.shownAfter rotations + 1 ∨
        spriteSheet.shownAfter (rotations + 1) = spriteSheet.shownAfter rotations - 1) ∧
    (∀ (start : Nat) (frame : Int), 0 ≤ frame → frame < spriteSheet.count →
      ((Finset.Ico start (start + (2 * spriteSheet.count - 2).toNat)).filter
        fun rotations => spriteSheet.shownAfter rotations = frame).card =
        if frame = 0 ∨ frame = spriteSheet.count - 1 then 1 else 2) := by
  rcases Int.eq_ofNat_of_zero_le (show 0 ≤ spriteSheet.count - 1 by omega) with ⟨top, top_eq⟩
  have positive : 0 < top := by omega
  have count_eq : spriteSheet.count = top + 1 := by omega
  have period : 2 * spriteSheet.count - 2 = ((2 * top : Nat) : Int) := by omega
  refine ⟨?_, shownAfter_next initial positive count_eq, ?_⟩
  · intro rotations
    have phase := phase_lt positive rotations
    rw [shownAfter_eq initial positive count_eq, triangleWave, period, top_eq, ← Int.natCast_mod]
    split_ifs <;> omega
  · intro start frame nonneg lt
    rcases Int.eq_ofNat_of_zero_le nonneg with ⟨value, rfl⟩
    rw [period, Int.toNat_natCast,
      visits_shownAfter initial positive count_eq start value (by omega), top_eq]
    simp only [Int.natCast_eq_zero, Int.ofNat_inj]

end Rotations

/-- Three frames: first, second, last, second, and again. -/
theorem shownAfter_triangleWave_threeSprites :
    (∀ rotations : Nat, threeSprites.shownAfter rotations =
      if (rotations : Int) % 4 ≤ 2 then (rotations : Int) % 4 else 4 - (rotations : Int) % 4) ∧
    (List.range 6).map threeSprites.shownAfter = [0, 1, 2, 1, 0, 1] := by
  have initial : threeSprites.Initial := ⟨by decide, rfl, rfl⟩
  exact ⟨(shownAfter_triangleWave initial (by decide)).1, rfl⟩

end PigweedExperimental.Draw.SpriteSheet
