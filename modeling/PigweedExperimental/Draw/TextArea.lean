import PigweedExperimental.Draw.DrawCharacter

namespace PigweedExperimental.Draw

/-! # `TextArea` -/

def newline : Int := 10

structure TextArea where
  cursorX : Int
  cursorY : Int
  columnCount : Int
  characterWrapEnabled : Bool
  currentFont : FontSet
  foregroundColor : UInt16
  backgroundColor : UInt16
  framebuffer : FramebufferWriter

/-- The first loops of `ScrollUp`: each column moves up, from the top down. -/
def copyUp (pixelHeight : Int) (writer : FramebufferWriter) : FramebufferWriter :=
  forRange 0 writer.width.toNat (fun currentX _ column =>
    forRange pixelHeight writer.height.toNat (fun currentY _ writer =>
      match writer.getPixel (.ofInt currentX) (.ofInt currentY) with
      | .ok pixelColor =>
          writer.setPixel (.ofInt currentX) (.ofInt (currentY - pixelHeight)) pixelColor
      | .error _ => writer) column) writer

/-- The last loops of `ScrollUp`. -/
def eraseBottom (pixelHeight : Int) (backgroundColor : UInt16) (writer : FramebufferWriter) :
    FramebufferWriter :=
  forRange 0 writer.width.toNat (fun x _ column =>
    forRange (writer.height.toNat - pixelHeight) writer.height.toNat (fun y _ writer =>
      writer.setPixel (.ofInt x) (.ofInt y) backgroundColor) column) writer

namespace TextArea

def setFont (area : TextArea) (newFont : FontSet) : TextArea :=
  { area with currentFont := newFont }

def setCursor (area : TextArea) (x y : Int) : TextArea :=
  { area with cursorX := x, cursorY := y, columnCount := 0 }

def setForegroundColor (area : TextArea) (color : UInt16) : TextArea :=
  { area with foregroundColor := color }

def setBackgroundColor (area : TextArea) (color : UInt16) : TextArea :=
  { area with backgroundColor := color }

def setCharacterWrap (area : TextArea) (newSetting : Bool) : TextArea :=
  { area with characterWrapEnabled := newSetting }

/-- The constructor: white on black, at the upper left corner. -/
def create (framebuffer : FramebufferWriter) (font : FontSet) : TextArea where
  cursorX := 0
  cursorY := 0
  columnCount := 0
  characterWrapEnabled := true
  currentFont := font
  foregroundColor := 0xFFFF
  backgroundColor := 0
  framebuffer := framebuffer

def moveCursorRightOnce (area : TextArea) : TextArea :=
  { area with
    cursorX := area.cursorX + area.currentFont.width.toNat
    columnCount := area.columnCount + 1 }

def scrollUp (area : TextArea) (lines : Int) : TextArea :=
  let pixelHeight := lines * area.currentFont.height.toNat
  { area with
    framebuffer :=
      eraseBottom pixelHeight area.backgroundColor (copyUp pixelHeight area.framebuffer) }

def insertLineBreak (area : TextArea) : TextArea :=
  let moved := { area with
    cursorY := area.cursorY + area.currentFont.height.toNat
    cursorX := area.cursorX - area.columnCount * area.currentFont.width.toNat
    columnCount := 0 }
  if moved.cursorY ≥ moved.framebuffer.height.toNat then
    let scrolled := moved.scrollUp 1
    { scrolled with cursorY := scrolled.cursorY - scrolled.currentFont.height.toNat }
  else
    moved

def drawCharacter (area : TextArea) (character : Int) : TextArea :=
  if character = newline then
    area.insertLineBreak
  else if character < area.currentFont.startingCharacter ∨
      character > area.currentFont.endingCharacter then
    area.moveCursorRightOnce
  else
    let fitted :=
      if area.characterWrapEnabled ∧
          area.currentFont.width.toNat + area.cursorX > area.framebuffer.width.toNat then
        area.insertLineBreak
      else
        area
    let drawn := { fitted with
      framebuffer := (Draw.drawCharacter character ⟨fitted.cursorX, fitted.cursorY⟩
        fitted.foregroundColor fitted.backgroundColor fitted.currentFont fitted.framebuffer).2 }
    drawn.moveCursorRightOnce

/-- What a C string holds: the characters before its terminator. -/
def untilNul (str : List Int) : List Int := str.takeWhile (· ≠ 0)

def drawText (area : TextArea) (str : List Int) : TextArea :=
  (untilNul str).foldl drawCharacter area

/-- A line break within the framebuffer. -/
theorem insertLineBreak_of_room {area : TextArea}
    (room : ¬area.cursorY + area.currentFont.height.toNat ≥ area.framebuffer.height.toNat) :
    area.insertLineBreak = { area with
      cursorX := area.cursorX - area.columnCount * area.currentFont.width.toNat
      cursorY := area.cursorY + area.currentFont.height.toNat
      columnCount := 0 } := by
  rw [insertLineBreak]
  exact if_neg room

/-- A line break at the bottom keeps the cursor's line and scrolls. -/
theorem insertLineBreak_of_full {area : TextArea}
    (full : area.cursorY + area.currentFont.height.toNat ≥ area.framebuffer.height.toNat) :
    area.insertLineBreak = { area with
      cursorX := area.cursorX - area.columnCount * area.currentFont.width.toNat
      columnCount := 0
      framebuffer := (area.scrollUp 1).framebuffer } := by
  rw [insertLineBreak]
  dsimp only
  rw [if_pos full]
  dsimp only [scrollUp]
  rw [Int.add_sub_cancel]

end TextArea

section Scroll

variable {pixelHeight : Int} {writer : FramebufferWriter}

/-- One pixel moves up. -/
theorem paints_copyPixel {current : FramebufferWriter} {x y : Int}
    {color : Int → Int → UInt16} (x_range : 0 ≤ x ∧ x < current.width.toNat)
    (y_range : pixelHeight ≤ y ∧ y < current.height.toNat) (up : 0 ≤ pixelHeight)
    (isColor : current.pixel x.toNat y.toNat = color x (y - pixelHeight)) :
    Paints (fun px py => px = x ∧ py = y - pixelHeight) color current
      (match current.getPixel (.ofInt x) (.ofInt y) with
      | .ok pixelColor => current.setPixel (.ofInt x) (.ofInt (y - pixelHeight)) pixelColor
      | .error _ => current) := by
  have width_lt := current.width.toNat_lt
  have height_lt := current.height.toNat_lt
  have x_eq : (UInt16.ofInt x).toNat = x.toNat := by
    have := toNat_ofInt x
    omega
  have y_eq : (UInt16.ofInt y).toNat = y.toNat := by
    have := toNat_ofInt y
    omega
  rw [FramebufferWriter.getPixel_inside (UInt16.lt_iff_toNat_lt.mpr (by omega))
    (UInt16.lt_iff_toNat_lt.mpr (by omega)), x_eq, y_eq]
  have x_mod : x % 65536 = x := by omega
  have y_mod : (y - pixelHeight) % 65536 = y - pixelHeight := by omega
  have painted := @paints_setPixel current x (y - pixelHeight)
    (current.pixel x.toNat y.toNat) color (by rw [x_mod, y_mod, isColor])
  rw [x_mod, y_mod] at painted
  exact painted

/-- A row is read before the copying reaches it, so the copy shows the old pixels. -/
theorem copyUp_paints (up : 0 ≤ pixelHeight) :
    Paints (fun _ y => y + pixelHeight < writer.height.toNat)
      (fun x y => writer.pixel x.toNat (y + pixelHeight).toNat) writer
      (copyUp pixelHeight writer) := by
  have painted := @forRange_paints
    (fun currentX x y => ∃ currentY, (pixelHeight ≤ currentY ∧ currentY < writer.height.toNat) ∧
      (x = currentX ∧ y = currentY - pixelHeight))
    (fun x y => writer.pixel x.toNat (y + pixelHeight).toNat) 0 writer.width.toNat
    (fun currentX _ column =>
      forRange pixelHeight writer.height.toNat (fun currentY _ writer =>
        match writer.getPixel (.ofInt currentX) (.ofInt currentY) with
        | .ok pixelColor =>
            writer.setPixel (.ofInt currentX) (.ofInt (currentY - pixelHeight)) pixelColor
        | .error _ => writer) column) writer (by
      intro currentX inWidth column earlierColumns
      apply forRange_paints
      intro currentY inHeight current higherRows
      have same := earlierColumns.trans higherRows
      apply paints_copyPixel
      · rw [same.width_eq]
        exact inWidth
      · rw [same.height_eq]
        exact inHeight
      · exact up
      · rw [same.outside currentX.toNat currentY.toNat (by omega) (by omega), Int.sub_add_cancel]
        intro painted
        rcases painted with ⟨earlier, range, _, _, place⟩ | ⟨higher, range, place⟩
        · omega
        · omega)
  apply painted.congr
  intro x y x_lt y_lt
  constructor
  · intro found
    rcases found with ⟨_, _, currentY, inHeight, place⟩
    omega
  · intro within
    exact ⟨x, by omega, y + pixelHeight, by omega, by omega⟩

/-- Rows above the framebuffer, where `pixelHeight` exceeds it, change nothing more. -/
theorem eraseBottom_paints (backgroundColor : UInt16) :
    Paints (fun _ y => writer.height.toNat ≤ y + pixelHeight) (fun _ _ => backgroundColor)
      writer (eraseBottom pixelHeight backgroundColor writer) := by
  have height_lt := writer.height.toNat_lt
  have width_lt := writer.width.toNat_lt
  have painted := @forRange_paints
    (fun column x y => ∃ row : Int,
      (writer.height.toNat - pixelHeight ≤ row ∧ row < writer.height.toNat) ∧
        (x = column % 65536 ∧ y = row % 65536))
    (fun _ _ => backgroundColor) 0 writer.width.toNat
    (fun x _ column =>
      forRange (writer.height.toNat - pixelHeight) writer.height.toNat (fun y _ writer =>
        writer.setPixel (.ofInt x) (.ofInt y) backgroundColor) column) writer (by
      intro x _ column _
      apply forRange_paints
      intro y _ current _
      exact paints_setPixel current x y rfl)
  apply painted.congr
  intro x y x_lt y_lt
  constructor
  · intro found
    rcases found with ⟨_, _, row, range, place⟩
    omega
  · intro within
    exact ⟨x, by omega, y, by omega, by omega⟩

/-- What `ScrollUp` leaves, for the number of lines it is told. -/
theorem scrollUp_paints {area : TextArea} {lines : Int} (lines_nonneg : 0 ≤ lines) :
    Paints (fun _ _ => True)
      (fun x y =>
        if y + lines * area.currentFont.height.toNat < area.framebuffer.height.toNat then
          area.framebuffer.pixel x.toNat (y + lines * area.currentFont.height.toNat).toNat
        else area.backgroundColor)
      area.framebuffer (area.scrollUp lines).framebuffer := by
  have up : 0 ≤ lines * area.currentFont.height.toNat :=
    Int.mul_nonneg lines_nonneg (Int.natCast_nonneg _)
  have copied := @copyUp_paints _ area.framebuffer up
  have erased := @eraseBottom_paints (lines * area.currentFont.height.toNat)
    (copyUp (lines * area.currentFont.height.toNat) area.framebuffer) area.backgroundColor
  constructor
  · exact erased.framebuffer_eq.trans copied.framebuffer_eq
  · intro x y x_lt y_lt _
    have x_lt' := copied.width_eq.symm ▸ x_lt
    have y_lt' := copied.height_eq.symm ▸ y_lt
    rw [copied.height_eq] at erased
    split
    · rename_i kept
      rw [← copied.inside x y x_lt y_lt kept]
      exact erased.outside x y x_lt' y_lt' (by omega)
    · rename_i new
      exact erased.inside x y x_lt' y_lt' (by omega)
  · intro x y _ _ nowhere
    exact absurd trivial nowhere

end Scroll

end PigweedExperimental.Draw
