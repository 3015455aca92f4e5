import PigweedExperimental.Foundation.Numeral
import PigweedExperimental.Foundation.RowMajor

namespace PigweedExperimental.Png2cc

/-! # `png2cc.py`

The generator cuts an image into tiles and prints each of them as lines of an
array initializer. A tile outside of the image raises an exception.
-/

/-- A pixel of an `RGBA` image. -/
structure Pixel where
  red : UInt8
  green : UInt8
  blue : UInt8
  alpha : UInt8
  deriving DecidableEq, Repr

structure Image where
  width : Nat
  height : Nat
  pixel : Nat → Nat → Pixel

def Image.getpixel (image : Image) (x y : Nat) : Option Pixel :=
  if x < image.width ∧ y < image.height then some (image.pixel x y) else none

abbrev Line := List Char

def rgb565 (red green blue : Nat) : Nat :=
  ((red &&& 0xF8) <<< 8) ||| ((green &&& 0xFC) <<< 3) ||| ((blue &&& 0xF8) >>> 3)

def Pixel.rgb565 (pix : Pixel) : Nat :=
  Png2cc.rgb565 pix.red.toNat pix.green.toNat pix.blue.toNat

/-- `f"{hex_rgb565:#04x},  // #{hex_r}{hex_g}{hex_b}\n"` -/
def rgb565Line (pix : Pixel) : Line :=
  ['0', 'x'] ++ padded 16 2 pix.rgb565 ++ [',', ' ', ' ', '/', '/', ' ', '#'] ++
    padded 16 2 pix.red.toNat ++ padded 16 2 pix.green.toNat ++ padded 16 2 pix.blue.toNat ++
    ['\n']

/-- `sprite_data`: for each sprite, its lines. -/
def renderRgb565Header (alphaComposite : Image)
    (tileWidth tileHeight spriteWidth spriteHeight : Nat) : Option (List (List Line)) :=
  (places tileHeight tileWidth).mapM fun (theight, twidth) =>
    (places spriteHeight spriteWidth).mapM fun (currenty, currentx) => do
      let globalx := twidth * spriteWidth + currentx
      let globaly := theight * spriteHeight + currenty
      let pix ← alphaComposite.getpixel globalx globaly
      return rgb565Line pix

def Pixel.isBlack (pix : Pixel) : Bool :=
  pix.red.toNat + pix.green.toNat + pix.blue.toNat = 0

def renderFontHeader (alphaComposite : Image)
    (tileWidth tileHeight spriteWidth spriteHeight : Nat) : Option (List (List Line)) :=
  (places tileHeight tileWidth).mapM fun (theight, twidth) =>
    (List.range spriteHeight).mapM fun currenty => do
      let digits ← (List.range spriteWidth).mapM fun currentx => do
        let globalx := twidth * spriteWidth + currentx
        let globaly := theight * spriteHeight + currenty
        let pix ← alphaComposite.getpixel globalx globaly
        return if pix.isBlack then '0' else '1'
      return ['0', 'b'] ++ digits ++ [',', '\n']

/-- The number of tiles across an image, or down: `tile_width` and `tile_height`
of `main`. -/
def tileCount (imageSize spriteSize : Nat) : Nat := max (imageSize / spriteSize) 1

/-- A line as the compiler reads it: an integer literal, a comma, a comment. -/
def readLine : Line → Option Nat
  | '0' :: 'x' :: rest => readNumeral 16 ',' rest
  | '0' :: 'b' :: rest => readNumeral 2 ',' rest
  | _ => none

/-- A literal that the element type does not hold is an error. -/
def readElement (elementBits : Nat) (line : Line) : Option Nat :=
  (readLine line).filter (· < 2 ^ elementBits)

/-- The elements of an array that the lines initialize. -/
def initialized (elementBits : Nat) (lines : List Line) : Option (List Nat) :=
  lines.mapM (readElement elementBits)

section Tiles

variable {image : Image} {spriteWidth spriteHeight : Nat}

theorem tileCount_eq {imageSize spriteSize : Nat} (positive : 1 ≤ spriteSize)
    (fits : spriteSize ≤ imageSize) : tileCount imageSize spriteSize = imageSize / spriteSize :=
  Nat.max_eq_left (Nat.div_pos fits positive)

/-- Tiles do not reach beyond the image, whatever is left at its edge. -/
theorem tile_lt {imageSize spriteSize tile offset : Nat} (tile_lt : tile < imageSize / spriteSize)
    (offset_lt : offset < spriteSize) : tile * spriteSize + offset < imageSize :=
  Nat.lt_of_lt_of_le (rowMajor_lt tile_lt offset_lt) (Nat.div_mul_le_self _ _)

/-- The pixel of a tile, counted row by row. -/
def Image.tilePixel (image : Image) (spriteWidth spriteHeight tile x y : Nat) : Pixel :=
  let tileWidth := image.width / spriteWidth
  image.pixel (tile % tileWidth * spriteWidth + x) (tile / tileWidth * spriteHeight + y)

/-- How many tiles an image has. -/
def Image.tiles (image : Image) (spriteWidth spriteHeight : Nat) : Nat :=
  image.height / spriteHeight * (image.width / spriteWidth)

theorem getpixel_tile {theight twidth x y : Nat}
    (theight_lt : theight < image.height / spriteHeight)
    (twidth_lt : twidth < image.width / spriteWidth) (x_lt : x < spriteWidth)
    (y_lt : y < spriteHeight) :
    image.getpixel (twidth * spriteWidth + x) (theight * spriteHeight + y) =
      some (image.pixel (twidth * spriteWidth + x) (theight * spriteHeight + y)) :=
  if_pos ⟨tile_lt twidth_lt x_lt, tile_lt theight_lt y_lt⟩

theorem readElement_eq {elementBits value : Nat} {line : Line}
    (isValue : readLine line = some value) (fits : value < 2 ^ elementBits) :
    readElement elementBits line = some value := by
  rw [readElement, isValue, Option.filter_some, if_pos (decide_eq_true fits)]

/-- Printed rows of literals are read as rows of their values. -/
theorem initialized_rows {elementBits rows columns : Nat} {line : Nat → Nat → Line}
    {value : Nat → Nat → Nat}
    (reads : ∀ row < rows, ∀ column < columns,
      readElement elementBits (line row column) = some (value row column)) :
    initialized elementBits
        ((List.range rows).map fun row => (List.range columns).map (line row)).flatten =
      some ((List.range rows).map fun row => (List.range columns).map (value row)).flatten := by
  rw [← List.flatMap_def, flatMap_rows, ← List.flatMap_def, flatMap_rows, initialized,
    List.mapM_map]
  apply mapM_eq_map
  intro index inRange
  rw [List.mem_range] at inRange
  exact reads (index / columns) (row_lt inRange) (index % columns) (column_lt inRange)

theorem Pixel.rgb565_lt (pix : Pixel) : pix.rgb565 < 2 ^ 16 := by
  have red_le : pix.red.toNat &&& 0xF8 ≤ 0xF8 := Nat.and_le_right
  have green_le : pix.green.toNat &&& 0xFC ≤ 0xFC := Nat.and_le_right
  have blue_le : pix.blue.toNat &&& 0xF8 ≤ 0xF8 := Nat.and_le_right
  rw [Pixel.rgb565, Png2cc.rgb565, Nat.shiftLeft_eq, Nat.shiftLeft_eq,
    Nat.shiftRight_eq_div_pow]
  apply Nat.or_lt_two_pow
  · apply Nat.or_lt_two_pow <;> omega
  · omega

/-- The comment after the comma does not count. -/
theorem readLine_rgb565Line (pix : Pixel) : readLine (rgb565Line pix) = some pix.rgb565 := by
  rw [rgb565Line]
  simp only [List.append_assoc, List.cons_append, List.nil_append]
  exact readNumeral_padded (by decide) (by decide) (by decide) 2 pix.rgb565 _

end Tiles

end PigweedExperimental.Png2cc
