import PigweedExperimental.Draw.Blocks
import PigweedExperimental.Draw.Circle
import PigweedExperimental.Foundation.TriangleWave

namespace PigweedExperimental.Terminal

open Draw

/-! # `DrawPigweedSprite`

The banner of the terminal display: a farm under a sun that moves a little with
the frames. The sun's place is kept between the calls.
-/

/-- The static variables. -/
structure SunMotion where
  sunOffset : Vector2 Int
  motionDir : Int
  frameNum : Int
  deriving DecidableEq, Repr

namespace SunMotion

def initial : SunMotion where
  sunOffset := ⟨0, 0⟩
  motionDir := -1
  frameNum := 0

/-- The direction after a move, which turns past either end. -/
def turn (x motionDir : Int) : Int :=
  if x < -60 then 1 else if x > 10 then -1 else motionDir

/-- What a call does to the variables, unless `frame_num` overflows. -/
def advance (sun : SunMotion) : Option SunMotion :=
  let frameNum := sun.frameNum + 1
  if frameNum ≤ 2 ^ 31 - 1 then
    let x := if frameNum.tmod 5 = 0 then sun.sunOffset.x + sun.motionDir else sun.sunOffset.x
    let y := if frameNum.tmod 15 = 0 then sun.sunOffset.y - sun.motionDir else sun.sunOffset.y
    some ⟨⟨x, y⟩, turn x sun.motionDir, frameNum⟩
  else
    none

/-- The variables after some calls. -/
def after : Nat → Option SunMotion
  | 0 => some initial
  | frames + 1 => (after frames).bind advance

end SunMotion

def colorDarkBlue : UInt16 := 0x194a

def colorOrange : UInt16 := 0xfd00

def colorYellow : UInt16 := 0xff64

def colorBlue : UInt16 := 0x2d7f

/-- The sprites of the farm; `data` has their pixels. -/
def pigweedFarmSpriteSheet (data : Int → UInt16) : SpriteSheet where
  width := 43
  height := 11
  count := 2
  transparentColor := 0xf81f
  data
  currentIndex := 0
  indexDirection := 1

def spritePosX : Int := 10

def spritePosY : Int := 24

def spriteScale : Int := 4

/-- A filled rectangle around the farm. -/
def drawBorder (spriteSheet : SpriteSheet) (borderSize : Int) (color : UInt16) : List SetPixel :=
  drawRectWH (spritePosX - borderSize) (spritePosY - borderSize)
    (spriteSheet.width * spriteScale + borderSize * 2)
    (spriteSheet.height * spriteScale + borderSize * 2) color true

def drawSun (spriteSheet : SpriteSheet) (sun : SunMotion) (radius : Int) (color : UInt16) :
    List SetPixel :=
  drawCircle (sun.sunOffset.x + spritePosX + spriteSheet.width * spriteScale - 32)
    (sun.sunOffset.y + spritePosY) radius color true

/-- What a call draws, with the variables as it leaves them. -/
def drawPigweedSprite (data : Int → UInt16) (sun : SunMotion) : List SetPixel :=
  let spriteSheet := pigweedFarmSpriteSheet data
  drawBorder spriteSheet 8 colorDarkBlue ++
  drawBorder spriteSheet 4 colorBlue ++
  drawSun spriteSheet sun 20 colorOrange ++
  drawSun spriteSheet sun 18 colorYellow ++
  drawSprite (spritePosX + 2) (spritePosY + 2) { spriteSheet with currentIndex := 1 } 4 ++
  drawSprite spritePosX spritePosY { spriteSheet with currentIndex := 0 } 4

/-- The bottom that it returns. -/
def pigweedSpriteBottom : Int := 76

namespace SunMotion

/-- The direction that goes with a phase of the wave. -/
def dirAt (time : Nat) : Int := if Rising 72 time then -1 else 1

/-- The sun's place after some frames: two triangle waves, of 72 steps to the side
and of 24 steps up, which turn together. -/
def place (frames : Nat) : Vector2 Int where
  x := 11 - triangleWave 72 (frames / 5 + 11)
  y := triangleWave 24 (frames / 15 + 4) - 4

section Motion

variable {time : Nat}

theorem turn_here : turn (11 - triangleWave 72 time) (dirAt time) = dirAt time := by
  simp only [turn, dirAt, triangleWave, Rising]
  split_ifs <;> omega

theorem turn_next : turn (11 - triangleWave 72 (time + 1)) (dirAt time) = dirAt (time + 1) := by
  simp only [turn, dirAt, triangleWave, Rising]
  split_ifs <;> omega

theorem x_next : (11 - triangleWave 72 time : Int) + dirAt time =
    11 - triangleWave 72 (time + 1) := by
  rw [dirAt]
  split
  case isTrue rising =>
    rw [triangleWave_up (by decide) rising]
    omega
  case isFalse falling =>
    have down := triangleWave_down (by decide) falling
    omega

/-- Every third step to the side is one up or down, with the same turns. -/
theorem y_next : (triangleWave 24 time - 4 : Int) - dirAt (3 * time + 1) =
    triangleWave 24 (time + 1) - 4 := by
  have together : Rising 72 (3 * time + 1) ↔ Rising 24 time := by
    rw [Rising, Rising]
    omega
  rw [dirAt, if_congr together rfl rfl]
  split
  case isTrue rising =>
    rw [triangleWave_up (by decide) rising]
    omega
  case isFalse falling =>
    have down := triangleWave_down (by decide) falling
    omega

end Motion

theorem advance_place {frames : Nat} (fits : frames + 1 < 2 ^ 31) :
    advance ⟨place frames, dirAt (frames / 5 + 11), frames⟩ =
      some ⟨place (frames + 1), dirAt ((frames + 1) / 5 + 11), (frames + 1 : Nat)⟩ := by
  have five : ((frames : Int) + 1).tmod 5 = ((frames + 1) % 5 : Nat) := rfl
  have fifteen : ((frames : Int) + 1).tmod 15 = ((frames + 1) % 15 : Nat) := rfl
  rw [advance]
  dsimp only
  rw [if_pos (by omega), five, fifteen]
  by_cases toSide : (frames + 1) % 5 = 0
  case neg =>
    have notUp : (frames + 1) % 15 ≠ 0 := by omega
    have sameSide : (frames + 1) / 5 = frames / 5 := by omega
    have sameUp : (frames + 1) / 15 = frames / 15 := by omega
    rw [if_neg (by omega), if_neg (by omega), place, place, sameSide, sameUp]
    dsimp only
    rw [turn_here]
    rfl
  case pos =>
    have nextSide : (frames + 1) / 5 + 11 = frames / 5 + 11 + 1 := by omega
    rw [if_pos (by omega), place, place, nextSide]
    dsimp only
    rw [x_next, turn_next]
    by_cases up : (frames + 1) % 15 = 0
    case neg =>
      have sameUp : (frames + 1) / 15 = frames / 15 := by omega
      rw [if_neg (by omega), sameUp]
      rfl
    case pos =>
      have nextUp : (frames + 1) / 15 + 4 = frames / 15 + 4 + 1 := by omega
      have side : frames / 5 + 11 = 3 * (frames / 15 + 4) + 1 := by omega
      rw [if_pos (by omega), nextUp, side, y_next]
      rfl

theorem after_eq {frames : Nat} (fits : frames < 2 ^ 31) :
    after frames = some ⟨place frames, dirAt (frames / 5 + 11), frames⟩ := by
  induction frames with
  | zero =>
      have atRest : place 0 = ⟨0, 0⟩ := by decide
      have leftwards : dirAt (0 / 5 + 11) = -1 := by decide
      rw [atRest, leftwards]
      rfl
  | succ frames induction =>
      have step := advance_place fits
      rw [after, induction (Nat.lt_of_succ_lt fits), Option.bind_some, step]

/-- The sun moves only as long as the frames can be counted. -/
theorem after_fits {frames : Nat} {sun : SunMotion} (reached : after frames = some sun) :
    frames < 2 ^ 31 := by
  induction frames generalizing sun with
  | zero => decide
  | succ frames induction =>
      rcases Option.bind_eq_some_iff.mp reached with ⟨before, reachedBefore, advanced⟩
      have isBefore := (after_eq (induction reachedBefore)).symm.trans reachedBefore
      cases isBefore
      rw [advance] at advanced
      dsimp only at advanced
      split at advanced
      case isTrue counted => omega
      case isFalse => cases advanced

theorem place_range (frames : Nat) :
    (-61 ≤ (place frames).x ∧ (place frames).x ≤ 11) ∧
      -4 ≤ (place frames).y ∧ (place frames).y ≤ 20 := by
  have side := triangleWave_le 72 (frames / 5 + 11)
  have up := triangleWave_le 24 (frames / 15 + 4)
  dsimp only [place]
  omega

end SunMotion

section Pixels

variable {data : Int → UInt16} {x y : Int}

/-- The sprite's own rows and columns, from the dark border on. -/
def InBanner (x y : Int) : Prop := (2 ≤ x ∧ x < 190) ∧ 0 ≤ y ∧ y < pigweedSpriteBottom

theorem drawBorder_inside {borderSize : Int} {color : UInt16}
    (narrow : 0 ≤ borderSize ∧ borderSize ≤ 8)
    (sets : Sets (drawBorder (pigweedFarmSpriteSheet data) borderSize color) x y) :
    InBanner x y := by
  rw [drawBorder, drawRectWH, sets_drawRect] at sets
  simp only [if_true, pigweedFarmSpriteSheet, spritePosX, spritePosY, spriteScale] at sets
  rw [InBanner, pigweedSpriteBottom]
  omega

theorem drawSun_inside {sun : SunMotion} {radius : Int} {color : UInt16}
    (side : -61 ≤ sun.sunOffset.x ∧ sun.sunOffset.x ≤ 11)
    (up : -4 ≤ sun.sunOffset.y ∧ sun.sunOffset.y ≤ 20) (small : radius ≤ 20)
    (sets : Sets (drawSun (pigweedFarmSpriteSheet data) sun radius color) x y) :
    InBanner x y := by
  rw [drawSun, sets_drawCircle_filled] at sets
  have near := sets.2.reach_le (by omega)
  simp only [reach, pigweedFarmSpriteSheet, spritePosX, spritePosY, spriteScale] at near
  rw [InBanner, pigweedSpriteBottom]
  omega

theorem drawSprite_inside {posX posY currentIndex : Int}
    (right : 2 ≤ posX ∧ posX ≤ 12) (down : 0 ≤ posY ∧ posY ≤ 26)
    (sets : Sets (drawSprite posX posY
      { pigweedFarmSpriteSheet data with currentIndex } 4) x y) : InBanner x y := by
  rcases sets_drawSprite.mp sets with ⟨_, currentX, inWidth, currentY, inHeight, _, inX, inY⟩
  simp only [pigweedFarmSpriteSheet] at inWidth inHeight
  rw [InBanner, pigweedSpriteBottom]
  omega

end Pixels

/-- As long as frames can be counted, the sun goes to and fro on two waves, and
whatever is drawn lies in the banner's columns and above the bottom that is
returned, which the border reaches. -/
theorem drawPigweedSprite_inside (data : Int → UInt16) {frames : Nat} (fits : frames < 2 ^ 31) :
    ∃ sun, SunMotion.after frames = some sun ∧ sun.sunOffset = SunMotion.place frames ∧
      (∀ x y, Sets (drawPigweedSprite data sun) x y → InBanner x y) ∧
      ∃ x, Sets (drawPigweedSprite data sun) x (pigweedSpriteBottom - 1) := by
  have range := SunMotion.place_range frames
  refine ⟨_, SunMotion.after_eq fits, rfl, ?_, 2, ?_⟩
  · intro x y sets
    simp only [drawPigweedSprite, sets_append] at sets
    rcases sets with ((((dark | light) | outer) | inner) | shadow) | farm
    · exact drawBorder_inside (by decide) dark
    · exact drawBorder_inside (by decide) light
    · exact drawSun_inside range.1 range.2 (by decide) outer
    · exact drawSun_inside range.1 range.2 (by decide) inner
    · exact drawSprite_inside (by decide) (by decide) shadow
    · exact drawSprite_inside (by decide) (by decide) farm
  · have border : Sets (drawBorder (pigweedFarmSpriteSheet data) 8 colorDarkBlue) 2
        (pigweedSpriteBottom - 1) := by
      rw [drawBorder, drawRectWH, sets_drawRect]
      simp only [if_true, pigweedFarmSpriteSheet, spritePosX, spritePosY, spriteScale,
        pigweedSpriteBottom]
      omega
    simp only [drawPigweedSprite, sets_append]
    exact .inl (.inl (.inl (.inl (.inl border))))

/-- The last frame that can be counted. -/
theorem drawPigweedSprite_inside_last :
    ∃ sun, SunMotion.after (2 ^ 31 - 1) = some sun ∧
      sun.sunOffset = SunMotion.place (2 ^ 31 - 1) ∧
      (∀ x y, Sets (drawPigweedSprite (fun _ => 0) sun) x y → InBanner x y) ∧
      ∃ x, Sets (drawPigweedSprite (fun _ => 0) sun) x (pigweedSpriteBottom - 1) :=
  drawPigweedSprite_inside (fun _ => 0) (by decide)

end PigweedExperimental.Terminal
