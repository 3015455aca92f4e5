import PigweedExperimental.Draw.DrawCharacter
import PigweedExperimental.Png2cc.Png2cc

namespace PigweedExperimental.Png2cc

/-! # Printed glyphs are the glyphs that are drawn -/

open Draw

namespace Image

/-- The bits of a glyph's row, from left to right. -/
def fontBits (image : Image) (spriteWidth spriteHeight sprite row : Nat) : List Bool :=
  (List.range spriteWidth).map fun x =>
    !(image.tilePixel spriteWidth spriteHeight sprite x row).isBlack

@[simp] theorem length_fontBits (image : Image) (spriteWidth spriteHeight sprite row : Nat) :
    (image.fontBits spriteWidth spriteHeight sprite row).length = spriteWidth := by
  rw [fontBits, List.length_map, List.length_range]

@[simp] theorem getElem_fontBits {image : Image} {spriteWidth spriteHeight sprite row x : Nat}
    (inRow : x < (image.fontBits spriteWidth spriteHeight sprite row).length) :
    (image.fontBits spriteWidth spriteHeight sprite row)[x] =
      !(image.tilePixel spriteWidth spriteHeight sprite x row).isBlack := by
  simp only [fontBits, List.getElem_map, List.getElem_range]

/-- A row of at most eight bits is a byte. -/
theorem ofBits_fontBits_lt (image : Image) {spriteWidth : Nat} (width_le : spriteWidth ≤ 8)
    (spriteHeight sprite row : Nat) :
    ofBits (image.fontBits spriteWidth spriteHeight sprite row) < 2 ^ 8 := by
  calc ofBits (image.fontBits spriteWidth spriteHeight sprite row)
    _ < 2 ^ (image.fontBits spriteWidth spriteHeight sprite row).length := ofBits_lt _
    _ ≤ 2 ^ 8 := by
        rw [length_fontBits]
        exact Nat.pow_le_pow_right Nat.two_pos width_le

def fontLines (image : Image) (spriteWidth spriteHeight : Nat) : List (List Line) :=
  (List.range (image.tiles spriteWidth spriteHeight)).map fun sprite =>
    (List.range spriteHeight).map fun row =>
      ['0', 'b'] ++ (image.fontBits spriteWidth spriteHeight sprite row).map
        (fun bit => bit.toNat.digitChar) ++ [',', '\n']

def fontValues (image : Image) (spriteWidth spriteHeight : Nat) : List Nat :=
  ((List.range (image.tiles spriteWidth spriteHeight)).map fun sprite =>
    (List.range spriteHeight).map fun row =>
      ofBits (image.fontBits spriteWidth spriteHeight sprite row)).flatten

end Image

section Fonts

variable {image : Image} {spriteWidth spriteHeight : Nat}

theorem renderFontHeader_eq :
    renderFontHeader image (image.width / spriteWidth) (image.height / spriteHeight)
        spriteWidth spriteHeight = some (image.fontLines spriteWidth spriteHeight) := by
  rw [renderFontHeader]
  apply mapM_places
  intro sprite isSprite
  apply mapM_eq_map
  intro row isRow
  rw [List.mem_range] at isRow
  have digits : (List.range spriteWidth).mapM (fun currentx => do
      let pix ← image.getpixel (sprite % (image.width / spriteWidth) * spriteWidth + currentx)
        (sprite / (image.width / spriteWidth) * spriteHeight + row)
      return if pix.isBlack then '0' else '1') =
        some ((image.fontBits spriteWidth spriteHeight sprite row).map
          fun bit => bit.toNat.digitChar) := by
    rw [Image.fontBits, List.map_map]
    apply mapM_eq_map
    intro x inRow
    rw [List.mem_range] at inRow
    rw [getpixel_tile (row_lt isSprite) (column_lt isSprite) inRow isRow, Function.comp_apply,
      Image.tilePixel]
    dsimp only [bind, Option.bind, pure]
    cases (image.pixel _ _).isBlack <;> rfl
  dsimp only
  rw [digits]
  rfl

theorem initialized_fontLines (someWidth : 1 ≤ spriteWidth) (width_le : spriteWidth ≤ 8) :
    initialized 8 (image.fontLines spriteWidth spriteHeight).flatten =
      some (image.fontValues spriteWidth spriteHeight) := by
  apply initialized_rows
  intro sprite _ row _
  have nonempty : image.fontBits spriteWidth spriteHeight sprite row ≠ [] := by
    apply List.ne_nil_of_length_pos
    rw [Image.length_fontBits]
    exact someWidth
  apply readElement_eq
  · simp only [List.cons_append, List.nil_append]
    exact readNumeral_bits (by decide) nonempty _
  · exact image.ofBits_fontBits_lt width_le spriteHeight sprite row

/-- `PW_FONT_BIT` tests a bit. -/
theorem fontBit_eq_testBit (x : Int) (number : UInt8) :
    fontBit x number = number.toNat.testBit x.toNat := by
  rw [fontBit, Nat.testBit, Nat.and_comm, Bool.eq_iff_iff, decide_eq_true_iff, bne_iff_ne]

/-- A font over the printed array. -/
structure IsPrinted (image : Image) (spriteWidth spriteHeight : Nat) (font : FontSet) : Prop where
  data_eq : font.data =
    ((image.fontValues spriteWidth spriteHeight).map UInt8.ofNat).toArray
  width_eq : font.width.toNat = spriteWidth
  height_eq : font.height.toNat = spriteHeight

/-- The byte of a glyph's row. -/
theorem IsPrinted.rowByte {font : FontSet}
    (isPrinted : IsPrinted image spriteWidth spriteHeight font) {sprite y : Nat}
    (isSprite : sprite < image.tiles spriteWidth spriteHeight) (y_lt : y < spriteHeight) :
    font.data.getD (font.rowIndex (font.startingCharacter + sprite) y) 0 =
      .ofNat (ofBits (image.fontBits spriteWidth spriteHeight sprite y)) := by
  have index_eq : font.rowIndex (font.startingCharacter + sprite) y =
      sprite * spriteHeight + y := by
    rw [FontSet.rowIndex, isPrinted.height_eq,
      show font.startingCharacter + sprite - font.startingCharacter = (sprite : Int) by omega,
      Int.mul_comm]
    exact Int.toNat_natCast (sprite * spriteHeight + y)
  rw [index_eq, isPrinted.data_eq, Array.getD_eq_getD_getElem?, List.getElem?_toArray,
    List.getElem?_map, Image.fontValues, getElem?_flatten_map isSprite y_lt]
  rfl

/-- A glyph has its pixels where the tile is not black. -/
theorem IsPrinted.glyph_eq {font : FontSet}
    (isPrinted : IsPrinted image spriteWidth spriteHeight font) (width_le : spriteWidth ≤ 8)
    {sprite x y : Nat} (isSprite : sprite < image.tiles spriteWidth spriteHeight)
    (x_lt : x < spriteWidth) (y_lt : y < spriteHeight) (notSpace : font.startingCharacter + sprite ≠ space)
    (notNul : font.startingCharacter + sprite ≠ 0) :
    font.glyph (font.startingCharacter + sprite) y x =
      !(image.tilePixel spriteWidth spriteHeight sprite x y).isBlack := by
  have inRow : x < (image.fontBits spriteWidth spriteHeight sprite y).length := by
    rw [Image.length_fontBits]
    exact x_lt
  have position : ((spriteWidth : Int) - x - 1).toNat =
      (image.fontBits spriteWidth spriteHeight sprite y).length - 1 - x := by
    rw [Image.length_fontBits]
    omega
  rw [FontSet.glyph, decide_eq_true notSpace, decide_eq_true notNul, fontBit_eq_testBit,
    isPrinted.rowByte isSprite y_lt,
    UInt8.toNat_ofNat_of_lt' (image.ofBits_fontBits_lt width_le spriteHeight sprite y),
    isPrinted.width_eq, position, testBit_ofBits inRow, Image.getElem_fontBits,
    Bool.true_and, Bool.true_and]

theorem Pixel.isBlack_iff {pix : Pixel} :
    pix.isBlack ↔ pix.red = 0 ∧ pix.green = 0 ∧ pix.blue = 0 := by
  rw [Pixel.isBlack, decide_eq_true_iff]
  rw [← UInt8.toNat_inj, ← UInt8.toNat_inj, ← UInt8.toNat_inj, UInt8.toNat_zero]
  omega

/-- A cell of the framebuffer shows the glyph's tile. -/
theorem IsPrinted.drawCharacter_pixel {font : FontSet}
    (isPrinted : IsPrinted image spriteWidth spriteHeight font) (width_le : spriteWidth ≤ 8)
    (last : font.endingCharacter =
      font.startingCharacter + image.tiles spriteWidth spriteHeight - 1)
    (pos : Vector2 Int) (fgColor bgColor : UInt16) (framebuffer : FramebufferWriter)
    {sprite x y : Nat} (isSprite : sprite < image.tiles spriteWidth spriteHeight)
    (notSpace : font.startingCharacter + sprite ≠ space)
    (notNul : font.startingCharacter + sprite ≠ 0) (x_lt : x < spriteWidth)
    (y_lt : y < spriteHeight) (inWidth : 0 ≤ pos.x + x ∧ pos.x + x < framebuffer.width.toNat)
    (inHeight : 0 ≤ pos.y + y ∧ pos.y + y < framebuffer.height.toNat) :
    (drawCharacter (font.startingCharacter + sprite) pos fgColor bgColor font
        framebuffer).2.pixel (pos.x + x).toNat (pos.y + y).toNat =
      if (image.tilePixel spriteWidth spriteHeight sprite x y).isBlack then bgColor
      else fgColor := by
  have has : font.Has (font.startingCharacter + sprite) := by
    constructor <;> omega
  have width_lt := framebuffer.width.toNat_lt
  have height_lt := framebuffer.height.toNat_lt
  have cellWidth_lt := font.width.toNat_lt
  have cellHeight_lt := font.height.toNat_lt
  have width_eq := isPrinted.width_eq
  have height_eq := isPrinted.height_eq
  have column : (((pos.x + x).toNat : Int) - pos.x) % 65536 = x := by omega
  have row : (((pos.y + y).toNat : Int) - pos.y) % 65536 = y := by omega
  have painted := drawCharacter_paints pos fgColor bgColor framebuffer (.inr (.inr has))
  have within : inCell font pos (pos.x + x).toNat (pos.y + y).toNat := by
    rw [inCell, column, row]
    omega
  rw [painted.inside _ _ (by omega) (by omega) within, column, row, FontSet.shade,
    isPrinted.glyph_eq width_le isSprite x_lt y_lt notSpace notNul]
  cases (image.tilePixel spriteWidth spriteHeight sprite x y).isBlack <;> rfl

/-- A character of the printed font is drawn as its tile of the image. -/
theorem fonts_agree (image : Image) (spriteWidth spriteHeight : Nat)
    (someWidth : 1 ≤ spriteWidth) (someHeight : 1 ≤ spriteHeight)
    (width_le : spriteWidth ≤ min 8 image.width) (height_le : spriteHeight ≤ image.height) :
    let tileWidth := image.width / spriteWidth
    let tileHeight := image.height / spriteHeight
    ∃ fontData bytes,
      renderFontHeader image (tileCount image.width spriteWidth)
        (tileCount image.height spriteHeight) spriteWidth spriteHeight = some fontData ∧
      fontData.length = tileWidth * tileHeight ∧
      initialized 8 fontData.flatten = some bytes ∧
      ∀ font : FontSet, font.data = (bytes.map UInt8.ofNat).toArray →
        font.width.toNat = spriteWidth → font.height.toNat = spriteHeight →
        font.endingCharacter = font.startingCharacter + fontData.length - 1 →
        ∀ i < fontData.length, font.startingCharacter + i ≠ space →
          font.startingCharacter + i ≠ 0 →
          ∀ (pos : Vector2 Int) (fgColor bgColor : UInt16) (framebuffer : FramebufferWriter),
          ∀ x < spriteWidth, ∀ y < spriteHeight,
            0 ≤ pos.x + x ∧ pos.x + x < framebuffer.width.toNat →
            0 ≤ pos.y + y ∧ pos.y + y < framebuffer.height.toNat →
            ∃ pix, image.getpixel (i % tileWidth * spriteWidth + x)
                (i / tileWidth * spriteHeight + y) = some pix ∧
              (drawCharacter (font.startingCharacter + i) pos fgColor bgColor font
                  framebuffer).2.pixel (pos.x + x).toNat (pos.y + y).toNat =
                if pix.red = 0 ∧ pix.green = 0 ∧ pix.blue = 0 then bgColor else fgColor := by
  intro tileWidth tileHeight
  rw [Nat.le_min] at width_le
  have length_eq : (image.fontLines spriteWidth spriteHeight).length =
      image.tiles spriteWidth spriteHeight := by
    rw [Image.fontLines, List.length_map, List.length_range]
  refine ⟨image.fontLines spriteWidth spriteHeight, image.fontValues spriteWidth spriteHeight,
    ?_, ?_, initialized_fontLines someWidth width_le.1, ?_⟩
  · rw [tileCount_eq someWidth width_le.2, tileCount_eq someHeight height_le]
    exact renderFontHeader_eq
  · exact length_eq.trans (Nat.mul_comm ..)
  · rw [length_eq]
    intro font data_eq width_eq height_eq last i isSprite notSpace notNul pos fgColor bgColor
      framebuffer x x_lt y y_lt inWidth inHeight
    have isPrinted : IsPrinted image spriteWidth spriteHeight font :=
      ⟨data_eq, width_eq, height_eq⟩
    refine ⟨_, getpixel_tile (row_lt isSprite) (column_lt isSprite) x_lt y_lt, ?_⟩
    rw [isPrinted.drawCharacter_pixel width_le.1 last pos fgColor bgColor framebuffer isSprite
      notSpace notNul x_lt y_lt inWidth inHeight]
    exact if_congr Pixel.isBlack_iff rfl rfl

/-- Two glyphs, three pixels wide, of which the second one is black at its right
end only. -/
def twoGlyphs : Image where
  width := 7
  height := 1
  pixel := fun x _ => if x < 5 then ⟨0xFF, 0xFF, 0xFF, 0xFF⟩ else ⟨0, 0, 0, 0xFF⟩

def twoGlyphsFont : FontSet := ⟨#[0b111, 0b110], 3, 1, 65, 66, by decide⟩

def threePixels : FramebufferWriter where
  framebuffer := ⟨1, .rgb565, ⟨3, 1⟩, 6⟩
  data := #[0, 0, 0]
  isRgb565 := rfl
  isValid := rfl
  covered := by decide

theorem fonts_agree_twoGlyphs :
    let drawn := (drawCharacter 66 ⟨0, 0⟩ 0xFFFF 0x1234 twoGlyphsFont threePixels).2
    drawn.pixel 1 0 = 0xFFFF ∧ drawn.pixel 2 0 = 0x1234 := by
  rcases fonts_agree twoGlyphs 3 1 (by decide) (by decide) (by decide) (by decide) with
    ⟨fontData, bytes, rendered, _, read, drawn⟩
  have isData : fontData = twoGlyphs.fontLines 3 1 :=
    Option.some.inj (rendered.symm.trans renderFontHeader_eq)
  subst isData
  have isBytes : bytes = twoGlyphs.fontValues 3 1 :=
    Option.some.inj (read.symm.trans (initialized_fontLines (by decide) (by decide)))
  subst isBytes
  have shown := drawn twoGlyphsFont (by decide) rfl rfl rfl 1 (by decide) (by decide) (by decide)
    ⟨0, 0⟩ 0xFFFF 0x1234 threePixels
  rcases shown 1 (by decide) 0 (by decide) (by decide) (by decide) with ⟨middle, isMiddle, white⟩
  rcases shown 2 (by decide) 0 (by decide) (by decide) (by decide) with ⟨right, isRight, black⟩
  cases isMiddle
  cases isRight
  exact ⟨white, black⟩

end Fonts

end PigweedExperimental.Png2cc
