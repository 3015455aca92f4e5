import PigweedExperimental.Draw.TextArea
import PigweedExperimental.Foundation.CharacterGrid

namespace PigweedExperimental.Draw

/-! # A `TextArea` is a character-grid terminal

What a `TextArea` leaves on a framebuffer that has room for a whole number of
text lines is a grid of characters, each drawn with its glyph.
-/

open TextArea

/-- What stays the same while text is drawn. -/
structure Screen where
  framebuffer : Framebuffer
  font : FontSet
  foregroundColor : UInt16
  backgroundColor : UInt16
  rows : Nat
  rows_pos : 0 < rows
  fontWidth_pos : 0 < font.width.toNat
  fontHeight_pos : 0 < font.height.toNat
  width_le : font.width.toNat ≤ framebuffer.size.width.toNat
  height_eq : framebuffer.size.height.toNat = rows * font.height.toNat

namespace Screen

def columns (screen : Screen) : Nat :=
  screen.framebuffer.size.width.toNat / screen.font.width.toNat

theorem columns_pos (screen : Screen) : 0 < screen.columns :=
  Nat.div_pos screen.width_le screen.fontWidth_pos

abbrev Grid (screen : Screen) := CharacterGrid Int screen.rows screen.columns

def empty (screen : Screen) : screen.Grid := .blank screen.rows_pos screen.columns_pos

def write (screen : Screen) (grid : screen.Grid) (character : Int) : screen.Grid :=
  if character = newline then grid.lineBreak else grid.put character

/-- The color of a pixel. The right margin belongs to no cell. -/
def render (screen : Screen) (grid : screen.Grid) (x y : Nat) : UInt16 :=
  match grid.read (y / screen.font.height.toNat) (x / screen.font.width.toNat) with
  | some character =>
      screen.font.shade screen.foregroundColor screen.backgroundColor character
        (y % screen.font.height.toNat : Nat) (x % screen.font.width.toNat : Nat)
  | none => screen.backgroundColor

/-- A fresh `TextArea` with the screen's font and colors. -/
def textArea (screen : Screen) (framebuffer : FramebufferWriter) : TextArea :=
  ((create framebuffer screen.font).setForegroundColor screen.foregroundColor
    ).setBackgroundColor screen.backgroundColor

/-- The simulation relation. -/
structure Shows (screen : Screen) (grid : screen.Grid) (area : TextArea) : Prop where
  framebuffer_eq : area.framebuffer.framebuffer = screen.framebuffer
  font_eq : area.currentFont = screen.font
  foregroundColor_eq : area.foregroundColor = screen.foregroundColor
  backgroundColor_eq : area.backgroundColor = screen.backgroundColor
  wraps : area.characterWrapEnabled = true
  cursorX_eq : area.cursorX = (grid.column * screen.font.width.toNat : Nat)
  columnCount_eq : area.columnCount = grid.column
  cursorY_eq : area.cursorY = (grid.row * screen.font.height.toNat : Nat)
  pixel_eq : ∀ x y : Nat, x < screen.framebuffer.size.width.toNat →
    y < screen.framebuffer.size.height.toNat →
    area.framebuffer.pixel x y = screen.render grid x y

namespace Shows

variable {screen : Screen} {grid : screen.Grid} {area : TextArea}

theorem width_eq (shows : screen.Shows grid area) :
    area.framebuffer.width = screen.framebuffer.size.width := by
  rw [FramebufferWriter.width, shows.framebuffer_eq]

theorem height_eq (shows : screen.Shows grid area) :
    area.framebuffer.height = screen.framebuffer.size.height := by
  rw [FramebufferWriter.height, shows.framebuffer_eq]

/-- On the last line, a line break moves the cursor to where the framebuffer ends. -/
theorem cursorY_overflows_iff (shows : screen.Shows grid area) :
    area.cursorY + area.currentFont.height.toNat ≥ area.framebuffer.height.toNat ↔
      ¬grid.row + 1 < screen.rows := by
  have next : area.cursorY + area.currentFont.height.toNat =
      ((grid.row + 1) * screen.font.height.toNat : Nat) := by
    rw [shows.cursorY_eq, shows.font_eq, Nat.succ_mul, Nat.cast_add]
  rw [next, shows.height_eq, screen.height_eq, ge_iff_le, Int.ofNat_le,
    Nat.mul_le_mul_right_iff screen.fontHeight_pos, not_lt]

theorem returned (shows : screen.Shows grid area) :
    area.cursorX - area.columnCount * area.currentFont.width.toNat = 0 := by
  rw [shows.cursorX_eq, shows.columnCount_eq, shows.font_eq, Nat.cast_mul, Int.sub_self]

/-- Scrolling the pixels by the height of a line scrolls the cells by one. -/
theorem pixel_scrollUp (shows : screen.Shows grid area) (last : ¬grid.row + 1 < screen.rows)
    {x y : Nat} (x_lt : x < screen.framebuffer.size.width.toNat)
    (y_lt : y < screen.framebuffer.size.height.toNat) :
    (area.scrollUp 1).framebuffer.pixel x y = screen.render grid.lineBreak x y := by
  have scrolled := (@scrollUp_paints area 1 (by decide)).inside x y
    (shows.width_eq ▸ x_lt) (shows.height_eq ▸ y_lt) trivial
  have nextRow : (y + screen.font.height.toNat) / screen.font.height.toNat =
      y / screen.font.height.toNat + 1 := Nat.add_div_right y screen.fontHeight_pos
  rw [Int.one_mul, shows.font_eq, shows.height_eq, shows.backgroundColor_eq] at scrolled
  rw [scrolled, render, CharacterGrid.read_lineBreak_last last]
  split
  · rename_i within
    rw [show (y + screen.font.height.toNat : Int).toNat = y + screen.font.height.toNat by omega,
      Int.toNat_natCast, shows.pixel_eq _ _ x_lt (by omega), render, nextRow,
      Nat.add_mod_right]
  · rename_i new
    rw [CharacterGrid.read_outside]
    intro inside
    have below : screen.rows ≤ y / screen.font.height.toNat + 1 := by
      rw [← nextRow, Nat.le_div_iff_mul_le screen.fontHeight_pos, ← screen.height_eq]
      omega
    omega

theorem insertLineBreak (shows : screen.Shows grid area) :
    screen.Shows grid.lineBreak area.insertLineBreak := by
  have overflows := shows.cursorY_overflows_iff
  have cursorX_eq : (0 : Int) = (grid.lineBreak.column * screen.font.width.toNat : Nat) := by
    rw [grid.lineBreak_column, Nat.zero_mul]
    rfl
  have columnCount_eq : (0 : Int) = grid.lineBreak.column := by
    rw [grid.lineBreak_column]
    rfl
  by_cases below : grid.row + 1 < screen.rows
  · have cursor : grid.lineBreak.row.val = grid.row + 1 := by
      rw [CharacterGrid.lineBreak, dif_pos below]
    rw [insertLineBreak_of_room (mt overflows.mp (not_not.mpr below)), shows.returned]
    exact {
      shows with
      cursorX_eq := cursorX_eq
      columnCount_eq := columnCount_eq
      cursorY_eq := by
        rw [cursor, shows.cursorY_eq, shows.font_eq, Nat.succ_mul, Nat.cast_add]
      pixel_eq := by
        intro x y x_lt y_lt
        rw [render, CharacterGrid.read_lineBreak below]
        exact shows.pixel_eq x y x_lt y_lt }
  · have cursor : grid.lineBreak.row = grid.row := by
      rw [CharacterGrid.lineBreak, dif_neg below]
    rw [insertLineBreak_of_full (overflows.mpr below), shows.returned]
    exact {
      shows with
      framebuffer_eq :=
        (@scrollUp_paints area 1 (by decide)).framebuffer_eq.trans shows.framebuffer_eq
      cursorX_eq := cursorX_eq
      columnCount_eq := columnCount_eq
      cursorY_eq := by
        rw [cursor]
        exact shows.cursorY_eq
      pixel_eq := fun x y x_lt y_lt => shows.pixel_scrollUp below x_lt y_lt }

/-- The character goes behind the last column exactly when it would not fit. -/
theorem overflows_width_iff (shows : screen.Shows grid area) :
    area.currentFont.width.toNat + area.cursorX > area.framebuffer.width.toNat ↔
      ¬grid.column < screen.columns := by
  have right : area.currentFont.width.toNat + area.cursorX =
      ((grid.column + 1) * screen.font.width.toNat : Nat) := by
    rw [shows.cursorX_eq, shows.font_eq, Nat.succ_mul, Nat.cast_add, Int.add_comm]
  rw [right, shows.width_eq, gt_iff_lt, Int.ofNat_lt, ← not_le, not_iff_not,
    ← Nat.le_div_iff_mul_le screen.fontWidth_pos]
  rfl

/-- Cells are apart from each other. -/
theorem inCell_iff {row column x y : Nat} (column_lt : column < screen.columns)
    (row_lt : row < screen.rows) (x_lt : x < screen.framebuffer.size.width.toNat)
    (y_lt : y < screen.framebuffer.size.height.toNat) :
    inCell screen.font ⟨(column * screen.font.width.toNat : Nat),
      (row * screen.font.height.toNat : Nat)⟩ x y ↔
        y / screen.font.height.toNat = row ∧ x / screen.font.width.toNat = column := by
  have width_lt := screen.framebuffer.size.width.toNat_lt
  have height_lt := screen.framebuffer.size.height.toNat_lt
  have right : (column + 1) * screen.font.width.toNat ≤
      screen.framebuffer.size.width.toNat :=
    (Nat.le_div_iff_mul_le screen.fontWidth_pos).mp column_lt
  have bottom : (row + 1) * screen.font.height.toNat ≤
      screen.framebuffer.size.height.toNat := by
    rw [screen.height_eq]
    exact Nat.mul_le_mul_right _ row_lt
  rw [Nat.div_eq_iff screen.fontHeight_pos, Nat.div_eq_iff screen.fontWidth_pos]
  rw [Nat.succ_mul] at right bottom
  dsimp only [inCell]
  have fontWidth_pos := screen.fontWidth_pos
  have fontHeight_pos := screen.fontHeight_pos
  generalize column * screen.font.width.toNat = left at right ⊢
  generalize row * screen.font.height.toNat = top at bottom ⊢
  omega

/-- Where a place is in its cell. -/
theorem offset_eq {place size : Nat} (place_lt : place < 65536) :
    ((place : Int) - (place / size * size : Nat)) % 65536 = (place % size : Nat) := by
  have parts := Nat.div_add_mod' place size
  generalize place / size * size = start at parts ⊢
  omega

/-- A drawn glyph is a written cell. -/
theorem pixel_drawCharacter (shows : screen.Shows grid area)
    (inLine : grid.column < screen.columns) {character : Int}
    (has : screen.font.Has character) {x y : Nat}
    (x_lt : x < screen.framebuffer.size.width.toNat)
    (y_lt : y < screen.framebuffer.size.height.toNat) :
    (Draw.drawCharacter character ⟨area.cursorX, area.cursorY⟩ area.foregroundColor
      area.backgroundColor area.currentFont area.framebuffer).2.pixel x y =
        screen.render (grid.place inLine character) x y := by
  have painted := drawCharacter_paints ⟨area.cursorX, area.cursorY⟩ area.foregroundColor
    area.backgroundColor area.framebuffer (.inr (.inr (shows.font_eq.symm ▸ has)))
  have thisCell : inCell area.currentFont ⟨area.cursorX, area.cursorY⟩ x y ↔
      y / screen.font.height.toNat = grid.row ∧ x / screen.font.width.toNat = grid.column := by
    rw [shows.font_eq, shows.cursorX_eq, shows.cursorY_eq]
    exact inCell_iff inLine grid.row.isLt x_lt y_lt
  have width_lt := screen.framebuffer.size.width.toNat_lt
  have height_lt := screen.framebuffer.size.height.toNat_lt
  rw [render, CharacterGrid.read_place]
  by_cases within : y / screen.font.height.toNat = grid.row ∧
      x / screen.font.width.toNat = grid.column
  · rw [if_pos within, painted.inside x y (shows.width_eq ▸ x_lt) (shows.height_eq ▸ y_lt)
      (thisCell.mpr within), shows.cursorX_eq, shows.cursorY_eq, ← within.1, ← within.2,
      offset_eq (by omega), offset_eq (by omega), shows.foregroundColor_eq,
      shows.backgroundColor_eq, shows.font_eq]
  · rw [if_neg within, painted.outside x y (shows.width_eq ▸ x_lt) (shows.height_eq ▸ y_lt)
      (mt thisCell.mp within)]
    exact shows.pixel_eq x y x_lt y_lt

theorem place (shows : screen.Shows grid area) (inLine : grid.column < screen.columns)
    {character : Int} (has : screen.font.Has character) :
    screen.Shows (grid.place inLine character) (moveCursorRightOnce { area with
      framebuffer := (Draw.drawCharacter character ⟨area.cursorX, area.cursorY⟩
        area.foregroundColor area.backgroundColor area.currentFont area.framebuffer).2 }) where
  framebuffer_eq := (drawCharacter_paints ⟨area.cursorX, area.cursorY⟩ area.foregroundColor
    area.backgroundColor area.framebuffer
      (.inr (.inr (shows.font_eq.symm ▸ has)))).framebuffer_eq.trans shows.framebuffer_eq
  font_eq := shows.font_eq
  foregroundColor_eq := shows.foregroundColor_eq
  backgroundColor_eq := shows.backgroundColor_eq
  wraps := shows.wraps
  cursorX_eq := by
    dsimp only [moveCursorRightOnce, CharacterGrid.place]
    rw [shows.cursorX_eq, shows.font_eq, Nat.succ_mul, Nat.cast_add]
  columnCount_eq := by
    dsimp only [moveCursorRightOnce, CharacterGrid.place]
    rw [shows.columnCount_eq, Nat.cast_succ]
  cursorY_eq := shows.cursorY_eq
  pixel_eq := fun _ _ x_lt y_lt => shows.pixel_drawCharacter inLine has x_lt y_lt

theorem drawCharacter (shows : screen.Shows grid area) {character : Int}
    (drawable : character = newline ∨ screen.font.Has character) :
    screen.Shows (screen.write grid character) (area.drawCharacter character) := by
  rw [TextArea.drawCharacter, write]
  by_cases isNewline : character = newline
  · rw [if_pos isNewline, if_pos isNewline]
    exact shows.insertLineBreak
  · have has := drawable.resolve_left isNewline
    have printable : ¬(character < area.currentFont.startingCharacter ∨
        character > area.currentFont.endingCharacter) := by
      rw [shows.font_eq]
      have first_le := has.1
      have le_last := has.2
      omega
    rw [if_neg isNewline, if_neg isNewline, if_neg printable]
    have overflows := shows.overflows_width_iff
    rw [CharacterGrid.put]
    by_cases inLine : grid.column < screen.columns
    · rw [if_neg fun wraps => overflows.mp wraps.2 inLine, dif_pos inLine]
      exact shows.place inLine has
    · rw [if_pos ⟨shows.wraps, overflows.mpr inLine⟩, dif_neg inLine]
      exact shows.insertLineBreak.place _ has

theorem foldl (shows : screen.Shows grid area) {characters : List Int}
    (drawable : ∀ character ∈ characters,
      character = newline ∨ screen.font.Has character) :
    screen.Shows (characters.foldl screen.write grid)
      (characters.foldl TextArea.drawCharacter area) := by
  induction characters generalizing grid area with
  | nil => exact shows
  | cons character rest induction =>
      rw [List.forall_mem_cons] at drawable
      exact induction (shows.drawCharacter drawable.1) drawable.2

end Shows

theorem shows_textArea {screen : Screen} {framebuffer : FramebufferWriter}
    (onScreen : framebuffer.framebuffer = screen.framebuffer)
    (filled : ∀ x y : Nat, x < screen.framebuffer.size.width.toNat →
      y < screen.framebuffer.size.height.toNat →
      framebuffer.pixel x y = screen.backgroundColor) :
    screen.Shows screen.empty (screen.textArea framebuffer) where
  framebuffer_eq := onScreen
  font_eq := rfl
  foregroundColor_eq := rfl
  backgroundColor_eq := rfl
  wraps := rfl
  cursorX_eq := by rw [empty, CharacterGrid.blank, Nat.zero_mul]; rfl
  columnCount_eq := rfl
  cursorY_eq := by rw [empty, CharacterGrid.blank, Nat.zero_mul]; rfl
  pixel_eq := by
    intro x y x_lt y_lt
    rw [render, empty, CharacterGrid.read_blank]
    exact filled x y x_lt y_lt

/-- A fresh `TextArea` draws what the terminal shows. -/
theorem drawText_renders {screen : Screen} {framebuffer : FramebufferWriter}
    (onScreen : framebuffer.framebuffer = screen.framebuffer)
    (filled : ∀ x y : Nat, x < screen.framebuffer.size.width.toNat →
      y < screen.framebuffer.size.height.toNat →
      framebuffer.pixel x y = screen.backgroundColor)
    {str : List Int}
    (drawable : ∀ character ∈ str, character = newline ∨ screen.font.Has character) :
    let drawn := ((screen.textArea framebuffer).drawText str).framebuffer
    drawn.framebuffer = screen.framebuffer ∧
      ∀ x y : Nat, x < screen.framebuffer.size.width.toNat →
        y < screen.framebuffer.size.height.toNat →
        drawn.pixel x y = screen.render ((untilNul str).foldl screen.write screen.empty) x y := by
  have shows := (shows_textArea onScreen filled).foldl fun character member =>
    drawable character ((List.takeWhile_sublist (· ≠ 0)).subset member)
  exact ⟨shows.framebuffer_eq, shows.pixel_eq⟩

/-- Two glyphs of two pixels each, on two lines with a margin of one pixel. -/
def twoGlyphs : Screen where
  framebuffer := ⟨1, .rgb565, ⟨5, 2⟩, 10⟩
  font := ⟨#[0b10, 0b01], 2, 1, 65, 66, by decide⟩
  foregroundColor := 0xFFFF
  backgroundColor := 0
  rows := 2
  rows_pos := by decide
  fontWidth_pos := by decide
  fontHeight_pos := by decide
  width_le := by decide
  height_eq := rfl

def twoGlyphsFramebuffer : FramebufferWriter where
  framebuffer := twoGlyphs.framebuffer
  data := Array.replicate 10 0
  isRgb565 := rfl
  isValid := rfl
  covered := by decide

/-- `"ABA\nB"` wraps once and then scrolls once. -/
theorem drawText_renders_twoGlyphs :
    let drawn := ((twoGlyphs.textArea twoGlyphsFramebuffer).drawText
      [65, 66, 65, newline, 66]).framebuffer
    (drawn.pixel 0 0, drawn.pixel 1 0, drawn.pixel 0 1, drawn.pixel 1 1, drawn.pixel 4 1) =
      (0xFFFF, 0, 0, 0xFFFF, 0) := by
  have filled : ∀ x y : Nat, x < 5 → y < 2 → twoGlyphsFramebuffer.pixel x y = 0 := by
    intro x y _ _
    rw [FramebufferWriter.pixel, twoGlyphsFramebuffer, Array.getD_eq_getD_getElem?,
      Array.getElem?_replicate]
    split <;> rfl
  have rendered := (@drawText_renders twoGlyphs twoGlyphsFramebuffer rfl filled
    [65, 66, 65, newline, 66] (by decide)).2
  dsimp only
  rw [rendered 0 0 (by decide) (by decide), rendered 1 0 (by decide) (by decide),
    rendered 0 1 (by decide) (by decide), rendered 1 1 (by decide) (by decide),
    rendered 4 1 (by decide) (by decide)]
  decide

end Screen

end PigweedExperimental.Draw
