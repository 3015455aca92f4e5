import PigweedExperimental.Draw.Primitives
import PigweedExperimental.Foundation.Execution

namespace PigweedExperimental.Draw

/-! # The current sprite

Three operations move the index of a sprite sheet. The index stays within the
sheet as long as no ping-pong step is made outwards at an end.
-/

namespace SpriteSheet

def setIndex (spriteSheet : SpriteSheet) (index : Int) : SpriteSheet :=
  { spriteSheet with currentIndex := index }

def rotateIndexLoop (spriteSheet : SpriteSheet) : SpriteSheet :=
  { spriteSheet with currentIndex := (spriteSheet.currentIndex + 1).tmod spriteSheet.count }

def rotateIndexPingPong (spriteSheet : SpriteSheet) : SpriteSheet :=
  let moved := { spriteSheet with
    currentIndex := spriteSheet.currentIndex + spriteSheet.indexDirection }
  if moved.currentIndex = 0 ∨ moved.currentIndex = moved.count - 1 then
    { moved with indexDirection := moved.indexDirection * -1 }
  else
    moved

inductive IndexOperation where
  | setIndex (index : Int)
  | rotateIndexLoop
  | rotateIndexPingPong
  deriving DecidableEq, Repr

/-- Callers set the index to one of the sprites. -/
def machine : Machine SpriteSheet IndexOperation where
  Enabled := fun spriteSheet operation =>
    match operation with
    | .setIndex index => 0 ≤ index ∧ index < spriteSheet.count
    | .rotateIndexLoop => True
    | .rotateIndexPingPong => True
  step := fun spriteSheet operation =>
    match operation with
    | .setIndex index => some (spriteSheet.setIndex index)
    | .rotateIndexLoop => some spriteSheet.rotateIndexLoop
    | .rotateIndexPingPong => some spriteSheet.rotateIndexPingPong

instance (spriteSheet : SpriteSheet) (operation : IndexOperation) :
    Decidable (machine.Enabled spriteSheet operation) := by
  cases operation <;> dsimp only [machine] <;> infer_instance

/-- `GetColor` reads the current sprite within the sheet's `count` sprites. -/
def ReadsInside (spriteSheet : SpriteSheet) : Prop :=
  ∀ x y, 0 ≤ x ∧ x < spriteSheet.width → 0 ≤ y ∧ y < spriteSheet.height →
    0 ≤ spriteSheet.colorIndex x y spriteSheet.currentIndex ∧
      spriteSheet.colorIndex x y spriteSheet.currentIndex <
        spriteSheet.count * spriteSheet.height * spriteSheet.width

structure Inside (spriteSheet : SpriteSheet) : Prop where
  index_nonneg : 0 ≤ spriteSheet.currentIndex
  index_lt : spriteSheet.currentIndex < spriteSheet.count
  direction : spriteSheet.indexDirection = -1 ∨ spriteSheet.indexDirection = 1
  readsInside : spriteSheet.ReadsInside

/-- A step of the ping-pong has a sprite before it. -/
def StepsInside (spriteSheet : SpriteSheet) (operation : IndexOperation) : Prop :=
  operation = .rotateIndexPingPong →
    ¬(spriteSheet.currentIndex = 0 ∧ spriteSheet.indexDirection = -1) ∧
      ¬(spriteSheet.currentIndex = spriteSheet.count - 1 ∧ spriteSheet.indexDirection = 1)

instance (spriteSheet : SpriteSheet) (operation : IndexOperation) :
    Decidable (spriteSheet.StepsInside operation) :=
  inferInstanceAs (Decidable (_ → _))

section Steps

variable {spriteSheet : SpriteSheet}

theorem readsInside_of_index (nonneg : 0 ≤ spriteSheet.currentIndex)
    (lt : spriteSheet.currentIndex < spriteSheet.count) : spriteSheet.ReadsInside := by
  intro x y inWidth inHeight
  have startY_nonneg : 0 ≤ spriteSheet.currentIndex * spriteSheet.height + y :=
    Int.add_nonneg (Int.mul_nonneg nonneg (by omega)) inHeight.1
  have startY_lt : spriteSheet.currentIndex * spriteSheet.height + y + 1 ≤
      spriteSheet.count * spriteSheet.height := by
    calc spriteSheet.currentIndex * spriteSheet.height + y + 1
      _ ≤ (spriteSheet.currentIndex + 1) * spriteSheet.height := by
          rw [Int.add_mul]
          omega
      _ ≤ spriteSheet.count * spriteSheet.height :=
          Int.mul_le_mul_of_nonneg_right (by omega) (by omega)
  rw [colorIndex]
  constructor
  · exact Int.add_nonneg (Int.mul_nonneg startY_nonneg (by omega)) inWidth.1
  · calc (spriteSheet.currentIndex * spriteSheet.height + y) * spriteSheet.width + x
      _ < (spriteSheet.currentIndex * spriteSheet.height + y + 1) * spriteSheet.width := by
          rw [Int.add_mul (_ + y)]
          omega
      _ ≤ spriteSheet.count * spriteSheet.height * spriteSheet.width :=
          Int.mul_le_mul_of_nonneg_right startY_lt (by omega)

theorem inside_iff : spriteSheet.Inside ↔
    (0 ≤ spriteSheet.currentIndex ∧ spriteSheet.currentIndex < spriteSheet.count) ∧
      (spriteSheet.indexDirection = -1 ∨ spriteSheet.indexDirection = 1) := by
  constructor
  · intro inside
    exact ⟨⟨inside.index_nonneg, inside.index_lt⟩, inside.direction⟩
  · intro both
    rcases both with ⟨⟨nonneg, lt⟩, direction⟩
    exact ⟨nonneg, lt, direction, readsInside_of_index nonneg lt⟩

/-- A ping-pong step moves by the direction, and may turn it. -/
theorem rotateIndexPingPong_eq : ∃ indexDirection,
    spriteSheet.rotateIndexPingPong = { spriteSheet with
      currentIndex := spriteSheet.currentIndex + spriteSheet.indexDirection
      indexDirection } ∧
    (indexDirection = spriteSheet.indexDirection ∨
      indexDirection = -spriteSheet.indexDirection) := by
  rw [rotateIndexPingPong]
  dsimp only
  split
  · exact ⟨_, rfl, .inr (Int.mul_neg_one _)⟩
  · exact ⟨_, rfl, .inl rfl⟩

theorem rotateIndexLoop_inside (inside : spriteSheet.Inside) :
    spriteSheet.rotateIndexLoop.Inside := by
  have nonneg := inside.index_nonneg
  have lt := inside.index_lt
  rw [inside_iff]
  dsimp only [rotateIndexLoop]
  rw [Int.tmod_eq_emod_of_nonneg (by omega)]
  exact ⟨⟨Int.emod_nonneg _ (by omega), Int.emod_lt_of_pos _ (by omega)⟩, inside.direction⟩

theorem rotateIndexPingPong_inside_iff (inside : spriteSheet.Inside) :
    spriteSheet.rotateIndexPingPong.Inside ↔
      spriteSheet.StepsInside .rotateIndexPingPong := by
  have nonneg := inside.index_nonneg
  have lt := inside.index_lt
  have direction := inside.direction
  rcases @rotateIndexPingPong_eq spriteSheet with ⟨indexDirection, moved, turned⟩
  rw [inside_iff, moved, StepsInside]
  dsimp only
  rw [imp_iff_right rfl]
  omega

/-- What decides about a step: only a ping-pong can leave the sheet. -/
theorem step_inside_iff {next : SpriteSheet} {operation : IndexOperation}
    (inside : spriteSheet.Inside) (enabled : machine.Enabled spriteSheet operation)
    (step : machine.step spriteSheet operation = some next) :
    next.Inside ↔ spriteSheet.StepsInside operation := by
  cases operation with
  | setIndex index =>
      cases step
      exact iff_of_true (inside_iff.mpr ⟨enabled, inside.direction⟩) nofun
  | rotateIndexLoop =>
      cases step
      exact iff_of_true (rotateIndexLoop_inside inside) nofun
  | rotateIndexPingPong =>
      cases step
      exact rotateIndexPingPong_inside_iff inside

/-- The sheet as its initializer leaves it. -/
structure Initial (spriteSheet : SpriteSheet) : Prop where
  someSprite : 1 ≤ spriteSheet.count
  atFirst : spriteSheet.currentIndex = 0
  upwards : spriteSheet.indexDirection = 1

theorem Initial.inside (initial : spriteSheet.Initial) : spriteSheet.Inside := by
  have someSprite := initial.someSprite
  rw [inside_iff, initial.atFirst, initial.upwards]
  omega

/-- The index stays within the sheet exactly as long as no ping-pong step is
made outwards at an end. -/
theorem inside_throughout_iff {operations : List IndexOperation} {last : SpriteSheet}
    (initial : spriteSheet.Initial) (run : machine.Run spriteSheet operations last) :
    machine.Throughout Inside spriteSheet operations ↔
      machine.EveryStep StepsInside spriteSheet operations := by
  apply run.throughout_iff_everyStep (fun _ => True)
  case preserved => intros; trivial
  case exactStep =>
    intro state operation next _ inside enabled step
    exact step_inside_iff inside enabled step
  case initialAuxiliary => trivial
  case initially => exact initial.inside

end Steps

/-- Three sprites of one pixel. -/
def threeSprites : SpriteSheet where
  width := 1
  height := 1
  count := 3
  transparentColor := 0
  data := fun _ => 0
  currentIndex := 0
  indexDirection := 1

/-- To the last sprite and back, and round once. -/
def backAndForth : List IndexOperation :=
  [.rotateIndexPingPong, .rotateIndexPingPong, .rotateIndexPingPong, .setIndex 2,
    .rotateIndexLoop]

theorem inside_throughout_iff_threeSprites :
    machine.Throughout Inside threeSprites backAndForth ↔
      machine.EveryStep StepsInside threeSprites backAndForth := by
  have run : machine.Run threeSprites backAndForth { threeSprites with indexDirection := -1 } :=
    .of_execute rfl
  exact inside_throughout_iff ⟨by decide, rfl, rfl⟩ run

/-- A single sprite has nowhere to go: its first ping-pong step leaves the sheet. -/
theorem singleSprite_leaves :
    ¬machine.Throughout Inside { threeSprites with count := 1 } [.rotateIndexPingPong] := by
  intro throughout
  have later := (throughout.2 _ rfl).initially.index_lt
  revert later
  decide

end SpriteSheet

end PigweedExperimental.Draw
