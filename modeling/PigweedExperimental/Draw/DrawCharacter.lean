import PigweedExperimental.Draw.Painting

namespace PigweedExperimental.Draw

/-! # Glyphs

`FontSet` and `DrawCharacter`. A coordinate that leaves the `uint16_t` range
comes back at the other side, so what a glyph covers is said modulo 65536.
-/

/-- A font has a byte for each row of each of its glyphs. -/
structure FontSet where
  data : Array UInt8
  width : UInt8
  height : UInt8
  startingCharacter : Int
  endingCharacter : Int
  covered : height.toNat * (endingCharacter + 1 - startingCharacter) ≤ data.size

def space : Int := 32

namespace FontSet

def Has (font : FontSet) (ch : Int) : Prop :=
  font.startingCharacter ≤ ch ∧ ch ≤ font.endingCharacter

instance (font : FontSet) (ch : Int) : Decidable (font.Has ch) :=
  inferInstanceAs (Decidable (_ ∧ _))

/-- A character that fills its cell. -/
def Drawable (font : FontSet) (ch : Int) : Prop := ch = space ∨ ch = 0 ∨ font.Has ch

instance (font : FontSet) (ch : Int) : Decidable (font.Drawable ch) :=
  inferInstanceAs (Decidable (_ ∨ _))

/-- Where the byte for a row of a glyph is: `font.height * character_index + font_row`. -/
def rowIndex (font : FontSet) (ch fontRow : Int) : Nat :=
  (font.height.toNat * (ch - font.startingCharacter) + fontRow).toNat

theorem rowIndex_lt {font : FontSet} {ch fontRow : Int} (has : font.Has ch)
    (inRow : 0 ≤ fontRow ∧ fontRow < font.height.toNat) :
    font.rowIndex ch fontRow < font.data.size := by
  have characters : font.height.toNat * (ch - font.startingCharacter + 1) ≤
      font.height.toNat * (font.endingCharacter + 1 - font.startingCharacter) := by
    apply Int.mul_le_mul_of_nonneg_left
    · have := has.2
      omega
    · exact Int.natCast_nonneg _
  have index_nonneg : 0 ≤ font.height.toNat * (ch - font.startingCharacter) :=
    Int.mul_nonneg (Int.natCast_nonneg _) (Int.sub_nonneg_of_le has.1)
  have covered := font.covered
  rw [Int.mul_add, Int.mul_one] at characters
  rw [rowIndex]
  omega

end FontSet

/-- `PW_FONT_BIT`. -/
def fontBit (x : Int) (number : UInt8) : Bool := number.toNat >>> x.toNat &&& 1 ≠ 0

/-- The two loops over a glyph's cell. -/
def setCell (font : FontSet) (pos : Vector2 Int)
    (value : (fontRow : Int) → 0 ≤ fontRow ∧ fontRow < font.height.toNat → Int → UInt16)
    (writer : FramebufferWriter) : FramebufferWriter :=
  forRange 0 font.height.toNat (fun fontRow inRow writer =>
    forRange 0 font.width.toNat (fun fontColumn _ writer =>
      writer.setPixel (.ofInt (pos.x + fontColumn)) (.ofInt (pos.y + fontRow))
        (value fontRow inRow fontColumn)) writer) writer

def drawSpace (pos : Vector2 Int) (bgColor : UInt16) (font : FontSet)
    (framebuffer : FramebufferWriter) : Size Int × FramebufferWriter :=
  (⟨font.width.toNat, font.height.toNat⟩, setCell font pos (fun _ _ _ => bgColor) framebuffer)

def drawCharacter (ch : Int) (pos : Vector2 Int) (fgColor bgColor : UInt16) (font : FontSet)
    (framebuffer : FramebufferWriter) : Size Int × FramebufferWriter :=
  if ch = space ∨ ch = 0 then
    drawSpace pos bgColor font framebuffer
  else if has : font.Has ch then
    (⟨font.width.toNat, font.height.toNat⟩,
      setCell font pos (fun fontRow inRow fontColumn =>
        have inside := FontSet.rowIndex_lt has inRow
        let pixelOn := fontBit (font.width.toNat - fontColumn - 1)
          font.data[font.rowIndex ch fontRow]
        if pixelOn then fgColor else bgColor) framebuffer)
  else
    (⟨0, font.height.toNat⟩, framebuffer)

/-- Whether a character has a pixel at a row and a column of its cell. -/
def FontSet.glyph (font : FontSet) (ch fontRow fontColumn : Int) : Bool :=
  ch ≠ space && ch ≠ 0 &&
    fontBit (font.width.toNat - fontColumn - 1) (font.data.getD (font.rowIndex ch fontRow) 0)

def FontSet.shade (font : FontSet) (fgColor bgColor : UInt16) (ch fontRow fontColumn : Int) :
    UInt16 :=
  if font.glyph ch fontRow fontColumn then fgColor else bgColor

/-- The pixels of a cell, as `SetPixel` gets them. -/
def inCell (font : FontSet) (pos : Vector2 Int) (x y : Int) : Prop :=
  (x - pos.x) % 65536 < font.width.toNat ∧ (y - pos.y) % 65536 < font.height.toNat

theorem setCell_paints {font : FontSet} {pos : Vector2 Int}
    {value : (fontRow : Int) → 0 ≤ fontRow ∧ fontRow < font.height.toNat → Int → UInt16}
    (shade : Int → Int → UInt16) (writer : FramebufferWriter)
    (shaded : ∀ fontRow inRow fontColumn,
      value fontRow inRow fontColumn = shade fontRow fontColumn) :
    Paints (inCell font pos) (fun x y => shade ((y - pos.y) % 65536) ((x - pos.x) % 65536))
      writer (setCell font pos value writer) := by
  have width_lt := font.width.toNat_lt
  have height_lt := font.height.toNat_lt
  have painted := @forRange_paints
    (fun fontRow x y => ∃ fontColumn : Int, (0 ≤ fontColumn ∧ fontColumn < font.width.toNat) ∧
      (x = (pos.x + fontColumn) % 65536 ∧ y = (pos.y + fontRow) % 65536))
    (fun x y => shade ((y - pos.y) % 65536) ((x - pos.x) % 65536)) 0 font.height.toNat
    (fun fontRow inRow writer => forRange 0 font.width.toNat (fun fontColumn _ writer =>
      writer.setPixel (.ofInt (pos.x + fontColumn)) (.ofInt (pos.y + fontRow))
        (value fontRow inRow fontColumn)) writer) writer (by
      intro fontRow inRow current _
      apply forRange_paints
      intro fontColumn inColumn current _
      apply paints_setPixel
      rw [shaded]
      congr 1 <;> omega)
  apply painted.congr
  intro x y x_lt y_lt
  have := writer.width.toNat_lt
  have := writer.height.toNat_lt
  rw [inCell]
  constructor
  · intro found
    rcases found with ⟨fontRow, inRow, fontColumn, inColumn, place⟩
    omega
  · intro within
    refine ⟨(y - pos.y) % 65536, ?_, (x - pos.x) % 65536, ?_, ?_⟩ <;> omega

/-- A character that is drawn at all fills its cell. -/
theorem drawCharacter_paints {ch : Int} {font : FontSet} (pos : Vector2 Int)
    (fgColor bgColor : UInt16) (framebuffer : FramebufferWriter)
    (drawable : font.Drawable ch) :
    Paints (inCell font pos)
      (fun x y => font.shade fgColor bgColor ch ((y - pos.y) % 65536) ((x - pos.x) % 65536))
      framebuffer (drawCharacter ch pos fgColor bgColor font framebuffer).2 := by
  rw [drawCharacter]
  split
  · rename_i blank
    dsimp only [drawSpace]
    apply setCell_paints (font.shade fgColor bgColor ch)
    intro fontRow inRow fontColumn
    have noGlyph : font.glyph ch fontRow fontColumn = false := by
      rw [FontSet.glyph]
      rcases blank with isSpace | isNul
      · rw [isSpace]
        rfl
      · rw [isNul]
        rfl
    rw [FontSet.shade, noGlyph]
    rfl
  · rename_i notBlank
    have has : font.Has ch := (or_assoc.mpr drawable).resolve_left notBlank
    rw [dif_pos has]
    dsimp only
    apply setCell_paints (font.shade fgColor bgColor ch)
    intro fontRow inRow fontColumn
    have inside := FontSet.rowIndex_lt has inRow
    have sameByte : font.data.getD (font.rowIndex ch fontRow) 0 =
        font.data[font.rowIndex ch fontRow] := by
      rw [Array.getD_eq_getD_getElem?, Array.getElem?_eq_getElem inside]
      rfl
    rw [not_or] at notBlank
    rw [FontSet.shade, FontSet.glyph, sameByte, decide_eq_true notBlank.1,
      decide_eq_true notBlank.2]
    rfl

/-- It also takes the width of its cell. -/
theorem drawCharacter_size_of_drawable {ch : Int} {font : FontSet} (pos : Vector2 Int)
    (fgColor bgColor : UInt16) (framebuffer : FramebufferWriter)
    (drawable : font.Drawable ch) :
    (drawCharacter ch pos fgColor bgColor font framebuffer).1 =
      ⟨font.width.toNat, font.height.toNat⟩ := by
  rw [drawCharacter]
  split
  · rfl
  · rename_i notBlank
    rw [dif_pos ((or_assoc.mpr drawable).resolve_left notBlank)]

theorem drawCharacter_of_not_drawable {ch : Int} {font : FontSet} (pos : Vector2 Int)
    (fgColor bgColor : UInt16) (framebuffer : FramebufferWriter)
    (skipped : ¬font.Drawable ch) :
    drawCharacter ch pos fgColor bgColor font framebuffer =
      (⟨0, font.height.toNat⟩, framebuffer) := by
  rw [FontSet.Drawable, ← or_assoc, not_or] at skipped
  rw [drawCharacter, if_neg skipped.1, dif_neg skipped.2]

/-- Drawn or not, the framebuffer stays the same one. -/
theorem drawCharacter_framebuffer (ch : Int) (pos : Vector2 Int) (fgColor bgColor : UInt16)
    (font : FontSet) (framebuffer : FramebufferWriter) :
    (drawCharacter ch pos fgColor bgColor font framebuffer).2.framebuffer =
      framebuffer.framebuffer := by
  by_cases drawable : font.Drawable ch
  · exact (drawCharacter_paints pos fgColor bgColor framebuffer drawable).framebuffer_eq
  · rw [drawCharacter_of_not_drawable pos fgColor bgColor framebuffer drawable]

end PigweedExperimental.Draw
