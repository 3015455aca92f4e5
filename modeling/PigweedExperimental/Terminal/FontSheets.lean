import PigweedExperimental.Draw.Layers

namespace PigweedExperimental.Terminal

open Draw

/-! # Font sheets

`DrawTestFontSheet` and `DrawColorFontSheet` are one loop over the characters of a
font. They differ in the background that a character gets.
-/

/-- The loop's variables. -/
structure FontSheet where
  tl : Vector2 Int
  maxExtents : Vector2 Int
  framebuffer : FramebufferWriter

/-- The loop's body; the background is chosen by `char_idx`. -/
def fontSheetStep (initialX : Int) (numColumns : Int) (fgColor : UInt16)
    (bgColor : Int → UInt16) (font : FontSet) (c : Int) (sheet : FontSheet) : FontSheet :=
  let charIdx := c - font.startingCharacter
  let tl : Vector2 Int :=
    if charIdx.tmod numColumns = 0 then
      ⟨initialX, sheet.tl.y + font.height.toNat⟩
    else
      sheet.tl
  let (charSize, framebuffer) :=
    drawCharacter c tl fgColor (bgColor charIdx) font sheet.framebuffer
  let tl : Vector2 Int := ⟨tl.x + charSize.width, tl.y⟩
  { tl
    maxExtents := ⟨max tl.x sheet.maxExtents.x, max tl.y sheet.maxExtents.y⟩
    framebuffer }

def drawFontSheet (tl : Vector2 Int) (numColumns : Int) (fgColor : UInt16)
    (bgColor : Int → UInt16) (font : FontSet) (framebuffer : FramebufferWriter) :
    Vector2 Int × FramebufferWriter :=
  let drawn := forRange font.startingCharacter (font.endingCharacter + 1)
    (fun c _ sheet => fontSheetStep tl.x numColumns fgColor bgColor font c sheet)
    ⟨tl, tl, framebuffer⟩
  (⟨drawn.maxExtents.x, drawn.maxExtents.y + font.height.toNat⟩, drawn.framebuffer)

def drawTestFontSheet (tl : Vector2 Int) (numColumns : Int) (fgColor bgColor : UInt16)
    (font : FontSet) (framebuffer : FramebufferWriter) : Vector2 Int × FramebufferWriter :=
  drawFontSheet tl numColumns fgColor (fun _ => bgColor) font framebuffer

def colorsEndesga32Rgb565 : List UInt16 := [
  0xba45, 0xd3a8, 0xeeb5, 0xe52e, 0xbb6a, 0x71e7, 0x3926, 0xa126,
  0xe1c8, 0xf3a4, 0xfd66, 0xff2c, 0x6629, 0x3c49, 0x22e8, 0x19e7,
  0x1271, 0x04db, 0x2f5e, 0xffff, 0xc65b, 0x8cd6, 0x5b51, 0x3a2c,
  0x2148, 0x18a4, 0xf808, 0x69cd, 0xb291, 0xf3af, 0xedb2, 0xc42d]

/-- `colors_endesga32_rgb565[char_idx % kNumColors]` -/
def sheetColor (charIdx : Int) : UInt16 :=
  colorsEndesga32Rgb565.getD (charIdx.tmod colorsEndesga32Rgb565.length).toNat 0

def drawColorFontSheet (tl : Vector2 Int) (numColumns : Int) (fgColor : UInt16)
    (font : FontSet) (framebuffer : FramebufferWriter) : Vector2 Int × FramebufferWriter :=
  drawFontSheet tl numColumns fgColor sheetColor font framebuffer

/-- A font's number of characters. -/
def fontCount (font : FontSet) : Nat :=
  (font.endingCharacter + 1 - font.startingCharacter).toNat

section Places

variable (tl : Vector2 Int) (columns : Nat) (fgColor : UInt16) (bgColor : Int → UInt16)
  (font : FontSet)

/-- The rows that some characters take. -/
def sheetRows (count : Nat) : Nat :=
  if count % columns = 0 then count / columns else count / columns + 1

/-- Where a character stands. The first row is one below the given corner. -/
def sheetPlace (index : Nat) : Vector2 Int where
  x := tl.x + font.width.toNat * (index % columns : Nat)
  y := tl.y + font.height.toNat * (index / columns + 1 : Nat)

def sheetCall (index : Nat) : Call :=
  .character (font.startingCharacter + index) (sheetPlace tl columns font index) fgColor
    (bgColor index) font

def sheetCalls (count : Nat) : List Call :=
  (List.range count).map (sheetCall tl columns fgColor bgColor font)

/-- The returned corner. -/
def sheetExtents (count : Nat) : Vector2 Int where
  x := tl.x + font.width.toNat * (min count columns : Nat)
  y := tl.y + font.height.toNat * (sheetRows columns count + 1 : Nat)

end Places

theorem sheetRows_succ (columns count : Nat) :
    sheetRows columns (count + 1) = count / columns + 1 := by
  rw [sheetRows, Nat.succ_div]
  by_cases full : columns ∣ count + 1
  case pos => rw [if_pos full, if_pos (Nat.mod_eq_zero_of_dvd full)]
  case neg =>
    rw [if_neg full, if_neg fun whole => full (Nat.dvd_of_mod_eq_zero whole), Nat.add_zero]

theorem sheetRows_le (columns count : Nat) : sheetRows columns count ≤ count / columns + 1 := by
  rw [sheetRows]
  split <;> omega

theorem row_lt_sheetRows {columns index count : Nat} (index_lt : index < count) :
    index / columns < sheetRows columns count := by
  rw [sheetRows]
  split
  case isTrue lineStart =>
    have whole := Nat.div_add_mod count columns
    rw [lineStart, Nat.add_zero] at whole
    apply Nat.div_lt_of_lt_mul
    rwa [whole]
  case isFalse => exact Nat.lt_succ_of_le (Nat.div_le_div_right index_lt.le)

theorem next_column {columns count : Nat} (columns_pos : 0 < columns)
    (inLine : (count + 1) % columns ≠ 0) : (count + 1) % columns = count % columns + 1 := by
  have column_lt := Nat.mod_lt count columns_pos
  rw [← Nat.mod_add_mod] at inLine ⊢
  apply Nat.mod_eq_of_lt
  by_contra atEnd
  apply inLine
  rw [show count % columns + 1 = columns by omega, Nat.mod_self]

theorem max_column (width : Nat) {columns count : Nat} (columns_pos : 0 < columns) :
    max (width * (count % columns + 1)) (width * min count columns) =
      width * min (count + 1) columns := by
  have column_lt := Nat.mod_lt count columns_pos
  have column_le := Nat.mod_le count columns
  rw [Nat.mul_max_mul_left]
  congr 1
  by_cases inFirst : count < columns
  case pos =>
    rw [Nat.mod_eq_of_lt inFirst]
    omega
  case neg => omega

section Loop

variable {tl : Vector2 Int} {columns : Nat} {fgColor : UInt16} {bgColor : Int → UInt16}
  {font : FontSet} {framebuffer : FramebufferWriter}

/-- The variables after some characters. The cursor matters within a line only. -/
structure Drawn (tl : Vector2 Int) (columns : Nat) (fgColor : UInt16)
    (bgColor : Int → UInt16) (font : FontSet) (framebuffer : FramebufferWriter) (count : Nat)
    (sheet : FontSheet) : Prop where
  inLine : count % columns ≠ 0 →
    sheet.tl.x = tl.x + font.width.toNat * (count % columns : Nat)
  line : sheet.tl.y = tl.y + font.height.toNat * sheetRows columns count
  right : sheet.maxExtents.x = tl.x + font.width.toNat * (min count columns : Nat)
  bottom : sheet.maxExtents.y = tl.y + font.height.toNat * sheetRows columns count
  framebuffer_eq : sheet.framebuffer =
    drawAll (sheetCalls tl columns fgColor bgColor font count) framebuffer

theorem Drawn.initially :
    Drawn tl columns fgColor bgColor font framebuffer 0 ⟨tl, tl, framebuffer⟩ where
  inLine := fun inLine => absurd (Nat.zero_mod columns) inLine
  line := by simp [sheetRows]
  right := by simp
  bottom := by simp [sheetRows]
  framebuffer_eq := rfl

theorem Drawn.step (columns_pos : 0 < columns) {count : Nat} {sheet : FontSheet}
    (drawn : Drawn tl columns fgColor bgColor font framebuffer count sheet)
    (has : font.Has (font.startingCharacter + count)) :
    Drawn tl columns fgColor bgColor font framebuffer (count + 1)
      (fontSheetStep tl.x columns fgColor bgColor font (font.startingCharacter + count)
        sheet) := by
  have place : (if (count : Int).tmod columns = 0 then
        (⟨tl.x, sheet.tl.y + font.height.toNat⟩ : Vector2 Int)
      else sheet.tl) = sheetPlace tl columns font count := by
    have isMod : (count : Int).tmod columns = (count % columns : Nat) := rfl
    rw [isMod, sheetPlace]
    split
    case isTrue lineStart =>
      rw [Int.natCast_eq_zero] at lineStart
      rw [drawn.line, sheetRows, if_pos lineStart, lineStart, Nat.cast_zero, Int.mul_zero,
        Int.add_zero, Nat.cast_succ, Int.mul_add, Int.mul_one, Int.add_assoc]
    case isFalse inLine =>
      rw [Int.natCast_eq_zero] at inLine
      have line := drawn.line
      rw [sheetRows, if_neg inLine] at line
      rw [← drawn.inLine inLine, ← line]
  have size := drawCharacter_size_of_drawable (sheetPlace tl columns font count) fgColor
    (bgColor count) sheet.framebuffer (.inr (.inr has))
  rw [fontSheetStep, add_sub_cancel_left]
  dsimp only
  rw [place, size]
  dsimp only [sheetPlace]
  constructor
  · intro inLine
    dsimp only
    rw [next_column columns_pos inLine]
    push_cast
    ring
  · rw [sheetRows_succ]
  · dsimp only
    rw [drawn.right, Int.add_assoc, max_add_add_left]
    congr 1
    exact_mod_cast max_column font.width.toNat columns_pos
  · dsimp only
    rw [drawn.bottom, sheetRows_succ]
    apply max_eq_left
    apply Int.add_le_add_left
    apply Int.mul_le_mul_of_nonneg_left
    · exact_mod_cast sheetRows_le columns count
    · exact Int.natCast_nonneg _
  · dsimp only
    rw [drawn.framebuffer_eq, sheetCalls, sheetCalls, List.range_succ, List.map_append,
      drawAll_append]
    rfl

/-- The loop in closed form. -/
theorem drawFontSheet_eq (columns_pos : 0 < columns) :
    drawFontSheet tl columns fgColor bgColor font framebuffer =
      (sheetExtents tl columns font (fontCount font),
        drawAll (sheetCalls tl columns fgColor bgColor font (fontCount font)) framebuffer) := by
  have drawn := forRange_invariant (fun c sheet =>
      Drawn tl columns fgColor bgColor font framebuffer (c - font.startingCharacter).toNat sheet)
    (by rw [Int.sub_self]; exact Drawn.initially)
    (fun c (inRange : font.startingCharacter ≤ c ∧ c < font.endingCharacter + 1) sheet drawn => by
      have isCharacter : c = font.startingCharacter + (c - font.startingCharacter).toNat := by
        omega
      have next : (c + 1 - font.startingCharacter).toNat =
          (c - font.startingCharacter).toNat + 1 := by omega
      have has : font.Has (font.startingCharacter + (c - font.startingCharacter).toNat) := by
        rw [← isCharacter]
        exact ⟨inRange.1, Int.le_of_lt_add_one inRange.2⟩
      have step := drawn.step columns_pos has
      rw [next]
      rw [← isCharacter] at step
      exact step)
  have count : (max font.startingCharacter (font.endingCharacter + 1) -
      font.startingCharacter).toNat = fontCount font := by
    rw [fontCount]
    omega
  rw [count] at drawn
  rw [drawFontSheet]
  rw [drawn.right, drawn.bottom, drawn.framebuffer_eq, sheetExtents, Nat.cast_succ, Int.mul_add,
    Int.mul_one, Int.add_assoc]

theorem sheetCalls_lossless (count : Nat) :
    ∀ call ∈ sheetCalls tl columns fgColor bgColor font count, call.Lossless := by
  intro call isCall
  rw [sheetCalls, List.mem_map] at isCall
  rcases isCall with ⟨index, _, rfl⟩
  trivial

end Loop

/-- A place lies in one column only. -/
theorem step_unique {width first second place : Int}
    (inFirst : width * first ≤ place ∧ place < width * first + width)
    (inSecond : width * second ≤ place ∧ place < width * second + width) : first = second := by
  have positive : 0 < width := by omega
  have before : width * first < width * (second + 1) := by
    rw [Int.mul_add]
    omega
  have after : width * second < width * (first + 1) := by
    rw [Int.mul_add]
    omega
  have := Int.lt_of_mul_lt_mul_left before positive.le
  have := Int.lt_of_mul_lt_mul_left after positive.le
  omega

section Cells

variable {tl : Vector2 Int} {columns : Nat} {font : FontSet}

/-- The cell of a character of the sheet. -/
def SheetCell (tl : Vector2 Int) (columns : Nat) (font : FontSet) (index : Nat)
    (x y : Int) : Prop :=
  font.Cell (sheetPlace tl columns font index).x (sheetPlace tl columns font index).y x y

theorem SheetCell.unique {first second : Nat} {x y : Int}
    (inFirst : SheetCell tl columns font first x y)
    (inSecond : SheetCell tl columns font second x y) : first = second := by
  rw [SheetCell, FontSet.Cell] at inFirst inSecond
  dsimp only [sheetPlace] at inFirst inSecond
  have column := @step_unique font.width.toNat (first % columns : Nat) (second % columns : Nat)
    (x - tl.x) (by omega) (by omega)
  have row := @step_unique font.height.toNat (first / columns + 1 : Nat)
    (second / columns + 1 : Nat) (y - tl.y) (by omega) (by omega)
  have sameColumn : first % columns = second % columns := by exact_mod_cast column
  have sameRow : first / columns = second / columns := by omega
  rw [← Nat.div_add_mod first columns, ← Nat.div_add_mod second columns, sameColumn, sameRow]

/-- A sheet is within the corner that is returned. -/
theorem sheetPlace_within (columns_pos : 0 < columns) {index count : Nat}
    (index_lt : index < count) :
    (tl.x ≤ (sheetPlace tl columns font index).x ∧
      (sheetPlace tl columns font index).x + font.width.toNat ≤
        (sheetExtents tl columns font count).x) ∧
    tl.y + font.height.toNat ≤ (sheetPlace tl columns font index).y ∧
      (sheetPlace tl columns font index).y + font.height.toNat ≤
        (sheetExtents tl columns font count).y := by
  have column : index % columns + 1 ≤ min count columns := by
    have column_lt := Nat.mod_lt index columns_pos
    have column_le := Nat.mod_le index columns
    omega
  have row := @row_lt_sheetRows columns index count index_lt
  have width : (font.width.toNat : Int) * (index % columns : Nat) + font.width.toNat ≤
      font.width.toNat * (min count columns : Nat) := by
    exact_mod_cast Nat.mul_le_mul_left font.width.toNat column
  have height : (font.height.toNat : Int) * (index / columns : Nat) + font.height.toNat ≤
      font.height.toNat * sheetRows columns count := by
    exact_mod_cast Nat.mul_le_mul_left font.height.toNat row
  have width_nonneg : 0 ≤ (font.width.toNat : Int) * (index % columns : Nat) := by positivity
  have height_nonneg : 0 ≤ (font.height.toNat : Int) * (index / columns : Nat) := by positivity
  simp only [sheetPlace, sheetExtents, Nat.cast_succ, Int.mul_add, Int.mul_one]
  omega

variable {fgColor : UInt16} {bgColor : Int → UInt16} {framebuffer : FramebufferWriter}

theorem sheetCalls_held (columns_pos : 0 < columns) {extent : Extent} {count : Nat}
    (left : extent.left ≤ tl.x) (right : (sheetExtents tl columns font count).x ≤ extent.right)
    (top : extent.top ≤ tl.y + font.height.toNat)
    (bottom : (sheetExtents tl columns font count).y ≤ extent.bottom) :
    extent.Holds (sheetCalls tl columns fgColor bgColor font count) := by
  intro call isCall
  rw [sheetCalls, List.mem_map] at isCall
  rcases isCall with ⟨index, isIndex, rfl⟩
  rw [List.mem_range] at isIndex
  have within := @sheetPlace_within tl columns font columns_pos index count isIndex
  refine ⟨trivial, ?_⟩
  intro x y shape
  have inWidth := shape.2.1
  have inHeight := shape.2.2
  rw [Extent.Contains]
  omega

/-- A font sheet has every character of the font in a cell of its own, row by row
below the given corner; it draws nothing else, and returns where it ends. -/
theorem drawFontSheet_cells (columns_pos : 0 < columns) (left : -32768 ≤ tl.x)
    (right : (sheetExtents tl columns font (fontCount font)).x ≤ 32768)
    (top : -32768 ≤ tl.y + font.height.toNat)
    (bottom : (sheetExtents tl columns font (fontCount font)).y ≤ 32768)
    (narrow : framebuffer.width.toNat ≤ 32767) (low : framebuffer.height.toNat ≤ 32767) :
    (drawFontSheet tl columns fgColor bgColor font framebuffer).1 =
      sheetExtents tl columns font (fontCount font) ∧
    (∀ px py : Nat, px < framebuffer.width.toNat → py < framebuffer.height.toNat →
      ∀ index < fontCount font, SheetCell tl columns font index px py →
        (drawFontSheet tl columns fgColor bgColor font framebuffer).2.pixel px py =
          font.shade fgColor (bgColor index) (font.startingCharacter + index)
            (py - (sheetPlace tl columns font index).y)
            (px - (sheetPlace tl columns font index).x)) ∧
    ∀ px py : Nat, px < framebuffer.width.toNat → py < framebuffer.height.toNat →
      (∀ index < fontCount font, ¬SheetCell tl columns font index px py) →
        (drawFontSheet tl columns fgColor bgColor font framebuffer).2.pixel px py =
          framebuffer.pixel px py := by
  rw [drawFontSheet_eq columns_pos]
  have has (index : Nat) (index_lt : index < fontCount font) :
      font.Has (font.startingCharacter + index) := by
    rw [fontCount] at index_lt
    rw [FontSet.Has]
    omega
  have inCell_iff (index : Nat) (index_lt : index < fontCount font) (px py : Nat)
      (px_lt : px < framebuffer.width.toNat) (py_lt : py < framebuffer.height.toNat) :
      inCell font (sheetPlace tl columns font index) px py ↔
        SheetCell tl columns font index px py := by
    have within := @sheetPlace_within tl columns font columns_pos index _ index_lt
    apply inCell_iff <;> omega
  have folded_iff (index : Nat) (index_lt : index < fontCount font) (px py : Nat)
      (px_lt : px < framebuffer.width.toNat) (py_lt : py < framebuffer.height.toNat) :
      Folded (sheetCall tl columns fgColor bgColor font index).Shape px py ↔
        SheetCell tl columns font index px py := by
    rw [sheetCall, folded_character_iff (by omega) (by omega), inCell_iff index index_lt px py
      px_lt py_lt]
    exact and_iff_right (.inr (.inr (has index index_lt)))
  refine ⟨rfl, ?_, ?_⟩
  · intro px py px_lt py_lt index index_lt inSheetCell
    have isCall : sheetCall tl columns fgColor bgColor font index ∈
        sheetCalls tl columns fgColor bgColor font (fontCount font) :=
      List.mem_map_of_mem (List.mem_range.mpr index_lt)
    have apart : (sheetCalls tl columns fgColor bgColor font (fontCount font)).Pairwise
        fun first second => ¬(Folded first.Shape px py ∧ Folded second.Shape px py) := by
      rw [sheetCalls, List.pairwise_map]
      apply List.pairwise_lt_range.imp_of_mem
      intro first second isFirst isSecond less both
      rw [List.mem_range] at isFirst isSecond
      have inFirst := (folded_iff first isFirst px py px_lt py_lt).mp both.1
      have inSecond := (folded_iff second isSecond px py px_lt py_lt).mp both.2
      exact less.ne (inFirst.unique inSecond)
    dsimp only
    rw [drawAll_call (sheetCalls_lossless _) apart px_lt py_lt isCall
      ((folded_iff index index_lt px py px_lt py_lt).mpr inSheetCell)]
    have painted := drawCharacter_paints (sheetPlace tl columns font index) fgColor
      (bgColor index) framebuffer (.inr (.inr (has index index_lt)))
    have color := painted.inside px py px_lt py_lt
      ((inCell_iff index index_lt px py px_lt py_lt).mpr inSheetCell)
    apply color.trans
    have width_lt := font.width.toNat_lt
    have height_lt := font.height.toNat_lt
    rw [SheetCell, FontSet.Cell] at inSheetCell
    congr 1 <;> omega
  · intro px py px_lt py_lt noCell
    apply drawAll_background (sheetCalls_lossless _) px_lt py_lt
    intro covers
    rcases covers with ⟨call, isCall, folded⟩
    rw [sheetCalls, List.mem_map] at isCall
    rcases isCall with ⟨index, isIndex, rfl⟩
    rw [List.mem_range] at isIndex
    exact noCell index isIndex ((folded_iff index isIndex px py px_lt py_lt).mp folded)

end Cells

/-- A font of three letters, two pixels wide. -/
def threeLetters : FontSet := ⟨#[2, 1, 3], 2, 1, 65, 67, by decide⟩

/-- In two columns, the third letter stands below the first one. -/
theorem drawFontSheet_cells_threeLetters :
    (drawFontSheet ⟨0, 0⟩ 2 9 (fun _ => 4) threeLetters (uniform ⟨8, 4⟩ 0)).1 = ⟨4, 3⟩ ∧
      (drawFontSheet ⟨0, 0⟩ 2 9 (fun _ => 4) threeLetters (uniform ⟨8, 4⟩ 0)).2.pixel 0 2 =
        9 := by
  have cells := @drawFontSheet_cells ⟨0, 0⟩ 2 threeLetters 9 (fun _ => 4) (uniform ⟨8, 4⟩ 0)
    (by decide) (by decide) (by decide) (by decide) (by decide) (by decide) (by decide)
  exact ⟨cells.1, cells.2.1 0 2 (by decide) (by decide) 2 (by decide) ⟨by decide, by decide⟩⟩

end PigweedExperimental.Terminal
