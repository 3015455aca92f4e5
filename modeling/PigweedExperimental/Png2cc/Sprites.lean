import PigweedExperimental.Draw.Primitives
import PigweedExperimental.Png2cc.Png2cc

namespace PigweedExperimental.Png2cc

/-! # Printed sprites are the sprites that are drawn -/

/-- The sheet over an initialized array, as the generated header defines it. -/
def spriteSheet (spriteWidth spriteHeight count : Nat) (transparentColor : UInt16)
    (spriteData : List Nat) : Draw.SpriteSheet where
  width := spriteWidth
  height := spriteHeight
  count := count
  transparentColor := transparentColor
  data := fun index => .ofNat (spriteData.getD index.toNat 0)
  currentIndex := 0
  indexDirection := 1

namespace Image

/-- A pixel of a sprite, by its index in the sprite's own rows. -/
def spritePixel (image : Image) (spriteWidth spriteHeight sprite index : Nat) : Pixel :=
  image.tilePixel spriteWidth spriteHeight sprite (index % spriteWidth) (index / spriteWidth)

def spriteLines (image : Image) (spriteWidth spriteHeight : Nat) : List (List Line) :=
  (List.range (image.tiles spriteWidth spriteHeight)).map fun sprite =>
    (List.range (spriteHeight * spriteWidth)).map fun index =>
      rgb565Line (image.spritePixel spriteWidth spriteHeight sprite index)

def spriteValues (image : Image) (spriteWidth spriteHeight : Nat) : List Nat :=
  ((List.range (image.tiles spriteWidth spriteHeight)).map fun sprite =>
    (List.range (spriteHeight * spriteWidth)).map fun index =>
      (image.spritePixel spriteWidth spriteHeight sprite index).rgb565).flatten

end Image

section Sprites

variable {image : Image} {spriteWidth spriteHeight : Nat}

theorem renderRgb565Header_eq :
    renderRgb565Header image (image.width / spriteWidth) (image.height / spriteHeight)
        spriteWidth spriteHeight = some (image.spriteLines spriteWidth spriteHeight) := by
  rw [renderRgb565Header]
  apply mapM_places
  intro sprite isSprite
  apply mapM_places
  intro index isPixel
  dsimp only
  rw [getpixel_tile (row_lt isSprite) (column_lt isSprite) (column_lt isPixel) (row_lt isPixel)]
  rfl

theorem initialized_spriteLines :
    initialized 16 (image.spriteLines spriteWidth spriteHeight).flatten =
      some (image.spriteValues spriteWidth spriteHeight) := by
  apply initialized_rows
  intro sprite _ index _
  exact readElement_eq (readLine_rgb565Line _) (Pixel.rgb565_lt _)

theorem length_spriteValues :
    (image.spriteValues spriteWidth spriteHeight).length =
      image.width / spriteWidth * (image.height / spriteHeight) * spriteWidth * spriteHeight := by
  rw [Image.spriteValues, length_flatten_map, Image.tiles, Nat.mul_comm (image.height / _),
    Nat.mul_comm spriteHeight, Nat.mul_assoc _ spriteWidth]

/-- The value at a sprite's row and column. -/
theorem getElem?_spriteValues {sprite x y : Nat}
    (isSprite : sprite < image.tiles spriteWidth spriteHeight) (x_lt : x < spriteWidth)
    (y_lt : y < spriteHeight) :
    (image.spriteValues spriteWidth spriteHeight)[
        sprite * (spriteHeight * spriteWidth) + (y * spriteWidth + x)]? =
      some (image.tilePixel spriteWidth spriteHeight sprite x y).rgb565 := by
  rw [Image.spriteValues, getElem?_flatten_map isSprite (rowMajor_lt y_lt x_lt),
    Image.spritePixel, rowMajor_mod x_lt, rowMajor_div x_lt]

/-- `GetColor` goes through a sheet as the generator does. -/
theorem colorIndex_eq (sprite x y : Nat) {count : Nat} {transparentColor : UInt16}
    {spriteData : List Nat} :
    (spriteSheet spriteWidth spriteHeight count transparentColor spriteData).colorIndex x y
        sprite =
      (sprite * (spriteHeight * spriteWidth) + (y * spriteWidth + x) : Nat) := by
  have inRows : (sprite * spriteHeight + y) * spriteWidth + x =
      sprite * (spriteHeight * spriteWidth) + (y * spriteWidth + x) := by
    rw [Nat.add_mul, Nat.mul_assoc, Nat.add_assoc]
  rw [← inRows]
  rfl

/-- The color that `GetColor` finds, and where. -/
theorem getColor_sprite {sprite x y : Nat}
    (isSprite : sprite < image.tiles spriteWidth spriteHeight) (x_lt : x < spriteWidth)
    (y_lt : y < spriteHeight) (count : Nat) (transparentColor : UInt16) :
    let sheet := spriteSheet spriteWidth spriteHeight count transparentColor
      (image.spriteValues spriteWidth spriteHeight)
    (0 ≤ sheet.colorIndex x y sprite ∧
      sheet.colorIndex x y sprite < (image.spriteValues spriteWidth spriteHeight).length) ∧
    (sheet.getColor x y sprite).toNat =
      (image.tilePixel spriteWidth spriteHeight sprite x y).rgb565 := by
  have isValue := getElem?_spriteValues isSprite x_lt y_lt
  have inside := (List.getElem?_eq_some_iff.mp isValue).1
  constructor
  · rw [colorIndex_eq]
    omega
  · rw [Draw.SpriteSheet.getColor, colorIndex_eq]
    dsimp only [spriteSheet]
    rw [Int.toNat_natCast, List.getD_eq_getElem?_getD, isValue]
    exact UInt16.toNat_ofNat_of_lt' (Pixel.rgb565_lt _)

/-- A sprite of the printed sheet is its tile of the image. -/
theorem sprites_agree (image : Image) (spriteWidth spriteHeight : Nat)
    (transparentColor : UInt16) (someWidth : 1 ≤ spriteWidth)
    (someHeight : 1 ≤ spriteHeight) (width_le : spriteWidth ≤ image.width)
    (height_le : spriteHeight ≤ image.height) :
    let tileWidth := image.width / spriteWidth
    let tileHeight := image.height / spriteHeight
    ∃ spriteData values,
      renderRgb565Header image (tileCount image.width spriteWidth)
        (tileCount image.height spriteHeight) spriteWidth spriteHeight = some spriteData ∧
      initialized 16 spriteData.flatten = some values ∧
      values.length = tileWidth * tileHeight * spriteWidth * spriteHeight ∧
      let sheet := spriteSheet spriteWidth spriteHeight (tileWidth * tileHeight) transparentColor
        values
      ∀ i < tileWidth * tileHeight, ∀ x < spriteWidth, ∀ y < spriteHeight,
        (0 ≤ sheet.colorIndex x y i ∧ sheet.colorIndex x y i < values.length) ∧
        ∃ pix, image.getpixel (i % tileWidth * spriteWidth + x)
            (i / tileWidth * spriteHeight + y) = some pix ∧
          (sheet.getColor x y i).toNat = pix.rgb565 := by
  intro tileWidth tileHeight
  refine ⟨_, _, ?_, initialized_spriteLines, length_spriteValues, ?_⟩
  · rw [tileCount_eq someWidth width_le, tileCount_eq someHeight height_le]
    exact renderRgb565Header_eq
  · intro sheet i i_lt x x_lt y y_lt
    have isSprite : i < image.tiles spriteWidth spriteHeight :=
      Nat.lt_of_lt_of_eq i_lt (Nat.mul_comm ..)
    have found := getColor_sprite isSprite x_lt y_lt (tileWidth * tileHeight) transparentColor
    exact ⟨found.1, _, getpixel_tile (row_lt isSprite) (column_lt isSprite) x_lt y_lt, found.2⟩

/-- Five pixels by one, cut into two sprites with a column left over. -/
def twoSprites : Image where
  width := 5
  height := 1
  pixel := fun x _ => if x = 3 then ⟨0xFF, 0, 0x08, 0xFF⟩ else ⟨0, 0, 0, 0xFF⟩

theorem sprites_agree_twoSprites : ∃ values,
    values.length = 4 ∧ ((spriteSheet 2 1 2 0 values).getColor 1 0 1).toNat = 0xF801 := by
  rcases sprites_agree twoSprites 2 1 0 (by decide) (by decide) (by decide) (by decide) with
    ⟨_, values, _, _, length_eq, colors⟩
  rcases (colors 1 (by decide) 1 (by decide) 0 (by decide)).2 with ⟨pix, isPixel, isColor⟩
  cases isPixel
  exact ⟨values, length_eq, isColor⟩

end Sprites

end PigweedExperimental.Png2cc
