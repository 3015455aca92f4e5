import PigweedExperimental.Draw.GhostPixels

namespace PigweedExperimental.Draw

/-! # Strings

`DrawString` moves right by the width that each character returns, so only the
characters that fill a cell advance the text.
-/

/-- The variables of the loop over the characters. -/
structure StringState where
  pos : Vector2 Int
  stringDimensions : Size Int
  framebuffer : FramebufferWriter

def StringState.initial (pos : Vector2 Int) (font : FontSet) (framebuffer : FramebufferWriter) :
    StringState :=
  ⟨pos, ⟨0, font.height.toNat⟩, framebuffer⟩

def stringStep (fgColor bgColor : UInt16) (font : FontSet) (state : StringState) (ch : Int) :
    StringState :=
  let (charDimensions, framebuffer) :=
    drawCharacter ch state.pos fgColor bgColor font state.framebuffer
  { pos := ⟨state.pos.x + charDimensions.width, state.pos.y⟩
    stringDimensions :=
      ⟨state.stringDimensions.width + charDimensions.width, state.stringDimensions.height⟩
    framebuffer := framebuffer }

def drawString (str : List Int) (pos : Vector2 Int) (fgColor bgColor : UInt16) (font : FontSet)
    (framebuffer : FramebufferWriter) : Size Int × FramebufferWriter :=
  let drawn := str.foldl (stringStep fgColor bgColor font) (.initial pos font framebuffer)
  (drawn.stringDimensions, drawn.framebuffer)

namespace FontSet

/-- The width of a string: one cell for each of its drawable characters. -/
def stringWidth (font : FontSet) (str : List Int) : Int :=
  font.width.toNat * str.countP fun ch => font.Drawable ch

/-- The pixels of a cell, by its upper left corner. -/
def Cell (font : FontSet) (left top x y : Int) : Prop :=
  (left ≤ x ∧ x < left + font.width.toNat) ∧ top ≤ y ∧ y < top + font.height.toNat

theorem stringWidth_nil (font : FontSet) : font.stringWidth [] = 0 := Int.mul_zero _

theorem stringWidth_cons_of_drawable {font : FontSet} {ch : Int} (drawable : font.Drawable ch)
    (str : List Int) : font.stringWidth (ch :: str) = font.width.toNat + font.stringWidth str := by
  rw [stringWidth, List.countP_cons, if_pos (decide_eq_true drawable), Int.natCast_succ,
    Int.mul_add, Int.mul_one, Int.add_comm]
  rfl

theorem stringWidth_cons_of_not_drawable {font : FontSet} {ch : Int}
    (skipped : ¬font.Drawable ch) (str : List Int) :
    font.stringWidth (ch :: str) = font.stringWidth str := by
  rw [stringWidth, List.countP_cons, if_neg fun drawn => skipped (of_decide_eq_true drawn)]
  rfl

theorem stringWidth_nonneg (font : FontSet) (str : List Int) : 0 ≤ font.stringWidth str :=
  Int.mul_nonneg (Int.natCast_nonneg _) (Int.natCast_nonneg _)

theorem stringWidth_append (font : FontSet) (first second : List Int) :
    font.stringWidth (first ++ second) = font.stringWidth first + font.stringWidth second := by
  rw [stringWidth, List.countP_append, Int.natCast_add, Int.mul_add]
  rfl

end FontSet

section Steps

variable {fgColor bgColor : UInt16} {font : FontSet}

theorem stringStep_of_drawable {ch : Int} (drawable : font.Drawable ch) (state : StringState) :
    stringStep fgColor bgColor font state ch =
      { pos := ⟨state.pos.x + font.width.toNat, state.pos.y⟩
        stringDimensions :=
          ⟨state.stringDimensions.width + font.width.toNat, state.stringDimensions.height⟩
        framebuffer :=
          (drawCharacter ch state.pos fgColor bgColor font state.framebuffer).2 } := by
  rw [stringStep]
  dsimp only
  rw [drawCharacter_size_of_drawable state.pos fgColor bgColor state.framebuffer drawable]

theorem stringStep_of_not_drawable {ch : Int} (skipped : ¬font.Drawable ch)
    (state : StringState) : stringStep fgColor bgColor font state ch = state := by
  rw [stringStep]
  dsimp only
  rw [drawCharacter_of_not_drawable state.pos fgColor bgColor state.framebuffer skipped]
  dsimp only
  rw [Int.add_zero, Int.add_zero]

/-- Position and size advance by the width of the string, whatever is drawn. -/
theorem foldl_stringStep (str : List Int) (state : StringState) :
    str.foldl (stringStep fgColor bgColor font) state =
      { pos := ⟨state.pos.x + font.stringWidth str, state.pos.y⟩
        stringDimensions :=
          ⟨state.stringDimensions.width + font.stringWidth str, state.stringDimensions.height⟩
        framebuffer := (drawString str state.pos fgColor bgColor font state.framebuffer).2 } := by
  induction str generalizing state with
  | nil =>
      rw [font.stringWidth_nil, Int.add_zero, Int.add_zero]
      rfl
  | cons ch str induction =>
      dsimp only [drawString]
      rw [List.foldl_cons, List.foldl_cons, induction, induction]
      by_cases drawable : font.Drawable ch
      case pos =>
        rw [stringStep_of_drawable drawable, stringStep_of_drawable drawable,
          FontSet.stringWidth_cons_of_drawable drawable, Int.add_assoc, Int.add_assoc]
        rfl
      case neg =>
        rw [stringStep_of_not_drawable drawable, stringStep_of_not_drawable drawable,
          FontSet.stringWidth_cons_of_not_drawable drawable]
        rfl

theorem drawString_size (str : List Int) (pos : Vector2 Int) (framebuffer : FramebufferWriter) :
    (drawString str pos fgColor bgColor font framebuffer).1 =
      ⟨font.stringWidth str, font.height.toNat⟩ := by
  rw [drawString, foldl_stringStep]
  dsimp only [StringState.initial]
  rw [Int.zero_add]

/-- Text goes on where the text before it has ended. -/
theorem drawString_append_framebuffer (first second : List Int) (pos : Vector2 Int)
    (framebuffer : FramebufferWriter) :
    (drawString (first ++ second) pos fgColor bgColor font framebuffer).2 =
      (drawString second ⟨pos.x + font.stringWidth first, pos.y⟩ fgColor bgColor font
        (drawString first pos fgColor bgColor font framebuffer).2).2 := by
  rw [drawString, List.foldl_append, foldl_stringStep first, foldl_stringStep second]
  rfl

theorem drawString_cons_of_drawable {ch : Int} (drawable : font.Drawable ch) (str : List Int)
    (pos : Vector2 Int) (framebuffer : FramebufferWriter) :
    (drawString (ch :: str) pos fgColor bgColor font framebuffer).2 =
      (drawString str ⟨pos.x + font.width.toNat, pos.y⟩ fgColor bgColor font
        (drawCharacter ch pos fgColor bgColor font framebuffer).2).2 := by
  rw [drawString, List.foldl_cons, stringStep_of_drawable drawable, foldl_stringStep]
  rfl

theorem drawString_cons_of_not_drawable {ch : Int} (skipped : ¬font.Drawable ch)
    (str : List Int) (pos : Vector2 Int) (framebuffer : FramebufferWriter) :
    drawString (ch :: str) pos fgColor bgColor font framebuffer =
      drawString str pos fgColor bgColor font framebuffer := by
  rw [drawString, List.foldl_cons, stringStep_of_not_drawable skipped]
  rfl

theorem drawString_framebuffer (str : List Int) (pos : Vector2 Int)
    (framebuffer : FramebufferWriter) :
    (drawString str pos fgColor bgColor font framebuffer).2.framebuffer =
      framebuffer.framebuffer := by
  induction str generalizing pos framebuffer with
  | nil => rfl
  | cons ch str induction =>
      by_cases drawable : font.Drawable ch
      case pos =>
        rw [drawString_cons_of_drawable drawable, induction, drawCharacter_framebuffer]
      case neg => rw [drawString_cons_of_not_drawable drawable, induction]

end Steps

section Pixels

variable {fgColor bgColor : UInt16} {font : FontSet} {pos : Vector2 Int}
  {framebuffer : FramebufferWriter} {px py : Nat}

/-- Within the `int16_t` range a cell is where its corner says. -/
theorem inCell_iff (left : -32768 ≤ pos.x) (right : pos.x + font.width.toNat ≤ 32768)
    (top : -32768 ≤ pos.y) (bottom : pos.y + font.height.toNat ≤ 32768) (px_lt : px < 32767)
    (py_lt : py < 32767) : inCell font pos px py ↔ font.Cell pos.x pos.y px py := by
  have width_lt := font.width.toNat_lt
  have height_lt := font.height.toNat_lt
  rw [inCell, FontSet.Cell]
  omega

/-- A string changes no pixel outside of the rows and columns of its text. -/
theorem drawString_outside {str : List Int} (left : -32768 ≤ pos.x)
    (right : pos.x + font.stringWidth str ≤ 32768) (top : -32768 ≤ pos.y)
    (bottom : pos.y + font.height.toNat ≤ 32768) (narrow : framebuffer.width.toNat ≤ 32767)
    (low : framebuffer.height.toNat ≤ 32767) (px_lt : px < framebuffer.width.toNat)
    (py_lt : py < framebuffer.height.toNat)
    (outside : ¬((pos.x ≤ px ∧ px < pos.x + font.stringWidth str) ∧
      pos.y ≤ py ∧ py < pos.y + font.height.toNat)) :
    (drawString str pos fgColor bgColor font framebuffer).2.pixel px py =
      framebuffer.pixel px py := by
  induction str generalizing pos framebuffer with
  | nil => rfl
  | cons ch str induction =>
      by_cases drawable : font.Drawable ch
      case pos =>
        have rest_nonneg := font.stringWidth_nonneg str
        rw [FontSet.stringWidth_cons_of_drawable drawable] at right outside
        have same := drawCharacter_framebuffer ch pos fgColor bgColor font framebuffer
        have sameWidth := FramebufferWriter.width_congr same
        have sameHeight := FramebufferWriter.height_congr same
        have painted := drawCharacter_paints pos fgColor bgColor framebuffer drawable
        have notInCell : ¬inCell font pos px py := by
          rw [inCell_iff left (by omega) top bottom (by omega) (by omega), FontSet.Cell]
          omega
        have kept := @induction ⟨pos.x + font.width.toNat, pos.y⟩
          (drawCharacter ch pos fgColor bgColor font framebuffer).2 (by dsimp only; omega)
          (by dsimp only; omega) top bottom (by rwa [sameWidth]) (by rwa [sameHeight])
          (by rwa [sameWidth]) (by rwa [sameHeight]) (by dsimp only; omega)
        rw [drawString_cons_of_drawable drawable, kept]
        exact painted.outside px py px_lt py_lt notInCell
      case neg =>
        rw [FontSet.stringWidth_cons_of_not_drawable drawable] at right outside
        rw [drawString_cons_of_not_drawable drawable]
        exact induction left right top bottom narrow low px_lt py_lt outside

/-- The cells of a string cover its width. -/
theorem exists_cell {str : List Int} {left x : Int}
    (inWidth : left ≤ x ∧ x < left + font.stringWidth str) :
    ∃ before ch after, str = before ++ ch :: after ∧ font.Drawable ch ∧
      left + font.stringWidth before ≤ x ∧
        x < left + font.stringWidth before + font.width.toNat := by
  induction str generalizing left with
  | nil =>
      rw [font.stringWidth_nil] at inWidth
      omega
  | cons ch str induction =>
      by_cases drawable : font.Drawable ch
      case pos =>
        rw [FontSet.stringWidth_cons_of_drawable drawable] at inWidth
        by_cases inFirst : x < left + font.width.toNat
        case pos =>
          refine ⟨[], ch, str, rfl, drawable, ?_⟩
          rw [font.stringWidth_nil]
          omega
        case neg =>
          rcases @induction (left + font.width.toNat) (by omega) with
            ⟨before, character, after, rfl, drawn, within⟩
          refine ⟨ch :: before, character, after, rfl, drawn, ?_⟩
          rw [FontSet.stringWidth_cons_of_drawable drawable]
          omega
      case neg =>
        rw [FontSet.stringWidth_cons_of_not_drawable drawable] at inWidth
        rcases induction inWidth with ⟨before, character, after, rfl, drawn, within⟩
        refine ⟨ch :: before, character, after, rfl, drawn, ?_⟩
        rw [FontSet.stringWidth_cons_of_not_drawable drawable]
        exact within

/-- A drawable character appears after the cells of those before it. -/
theorem drawString_inside {before after : List Int} {ch : Int} (drawable : font.Drawable ch)
    (left : -32768 ≤ pos.x)
    (right : pos.x + font.stringWidth (before ++ ch :: after) ≤ 32768) (top : -32768 ≤ pos.y)
    (bottom : pos.y + font.height.toNat ≤ 32768) (narrow : framebuffer.width.toNat ≤ 32767)
    (low : framebuffer.height.toNat ≤ 32767) (px_lt : px < framebuffer.width.toNat)
    (py_lt : py < framebuffer.height.toNat)
    (within : font.Cell (pos.x + font.stringWidth before) pos.y px py) :
    (drawString (before ++ ch :: after) pos fgColor bgColor font framebuffer).2.pixel px py =
      font.shade fgColor bgColor ch (py - pos.y) (px - (pos.x + font.stringWidth before)) := by
  have before_nonneg := font.stringWidth_nonneg before
  have after_nonneg := font.stringWidth_nonneg after
  have width_lt := font.width.toNat_lt
  have height_lt := font.height.toNat_lt
  rw [font.stringWidth_append, FontSet.stringWidth_cons_of_drawable drawable] at right
  rw [drawString_append_framebuffer, drawString_cons_of_drawable drawable]
  have sameBefore := @drawString_framebuffer fgColor bgColor font before pos framebuffer
  generalize (drawString before pos fgColor bgColor font framebuffer).2 = middle at sameBefore
  have sameWidth := FramebufferWriter.width_congr sameBefore
  have sameHeight := FramebufferWriter.height_congr sameBefore
  have sameAfter := drawCharacter_framebuffer ch ⟨pos.x + font.stringWidth before, pos.y⟩
    fgColor bgColor font middle
  have sameWidth' := FramebufferWriter.width_congr sameAfter
  have sameHeight' := FramebufferWriter.height_congr sameAfter
  rw [sameWidth] at sameWidth'
  rw [sameHeight] at sameHeight'
  have painted := drawCharacter_paints ⟨pos.x + font.stringWidth before, pos.y⟩ fgColor bgColor
    middle drawable
  have isInCell : inCell font ⟨pos.x + font.stringWidth before, pos.y⟩ px py := by
    apply (@inCell_iff font ⟨pos.x + font.stringWidth before, pos.y⟩ px py (by dsimp only; omega)
      (by dsimp only; omega) top bottom (by omega) (by omega)).mpr
    exact within
  dsimp only [FontSet.Cell] at within
  have kept := @drawString_outside fgColor bgColor font
    ⟨pos.x + font.stringWidth before + font.width.toNat, pos.y⟩
    (drawCharacter ch ⟨pos.x + font.stringWidth before, pos.y⟩ fgColor bgColor font middle).2
    px py after (by dsimp only; omega) (by dsimp only; omega) top bottom (by rwa [sameWidth'])
    (by rwa [sameHeight']) (by rwa [sameWidth']) (by rwa [sameHeight']) (by dsimp only; omega)
  rw [kept, painted.inside px py (by rwa [sameWidth]) (by rwa [sameHeight]) isInCell]
  congr 1 <;> dsimp only <;> omega

/-- A string is drawn cell by cell, without gaps: each drawable character in the
cell after those of the drawable ones before it, and nothing else. Its width is that
of its cells, so a string may be drawn in two parts. -/
theorem drawString_cells {str : List Int} (left : -32768 ≤ pos.x)
    (right : pos.x + font.stringWidth str ≤ 32768) (top : -32768 ≤ pos.y)
    (bottom : pos.y + font.height.toNat ≤ 32768) (narrow : framebuffer.width.toNat ≤ 32767)
    (low : framebuffer.height.toNat ≤ 32767) :
    (drawString str pos fgColor bgColor font framebuffer).1 =
      ⟨font.stringWidth str, font.height.toNat⟩ ∧
    (∀ before ch after, str = before ++ ch :: after → font.Drawable ch →
      ∀ px py : Nat, px < framebuffer.width.toNat → py < framebuffer.height.toNat →
        font.Cell (pos.x + font.stringWidth before) pos.y px py →
        (drawString str pos fgColor bgColor font framebuffer).2.pixel px py =
          font.shade fgColor bgColor ch (py - pos.y) (px - (pos.x + font.stringWidth before))) ∧
    (∀ px py : Nat, px < framebuffer.width.toNat → py < framebuffer.height.toNat →
      (∀ before ch after, str = before ++ ch :: after → font.Drawable ch →
        ¬font.Cell (pos.x + font.stringWidth before) pos.y px py) →
      (drawString str pos fgColor bgColor font framebuffer).2.pixel px py =
        framebuffer.pixel px py) ∧
    (∀ first second, str = first ++ second →
      let (firstSize, middle) := drawString first pos fgColor bgColor font framebuffer
      let (secondSize, last) :=
        drawString second ⟨pos.x + firstSize.width, pos.y⟩ fgColor bgColor font middle
      drawString str pos fgColor bgColor font framebuffer =
        (⟨firstSize.width + secondSize.width, font.height.toNat⟩, last)) := by
  refine ⟨drawString_size str pos framebuffer, ?_, ?_, ?_⟩
  · rintro before ch after rfl drawable px py px_lt py_lt within
    exact drawString_inside drawable left right top bottom narrow low px_lt py_lt within
  · intro px py px_lt py_lt noCell
    apply drawString_outside left right top bottom narrow low px_lt py_lt
    rintro ⟨inWidth, inHeight⟩
    rcases exists_cell inWidth with ⟨before, ch, after, split, drawable, inColumns⟩
    exact noCell before ch after split drawable ⟨inColumns, inHeight⟩
  · rintro first second rfl
    dsimp only
    apply Prod.ext
    · rw [drawString_size, drawString_size, drawString_size, font.stringWidth_append]
    · rw [drawString_append_framebuffer, drawString_size]

end Pixels

/-- An `'A'` of two pixels, the left one set. -/
def leftColumn : FontSet := ⟨#[2], 2, 1, 65, 65, by decide⟩

/-- What is not in the font leaves no gap. -/
theorem drawString_cells_leftColumn :
    (drawString [65, 7, 65] ⟨0, 0⟩ 9 4 leftColumn (uniform ⟨8, 1⟩ 0)).1 = ⟨4, 1⟩ ∧
      (drawString [65, 7, 65] ⟨0, 0⟩ 9 4 leftColumn (uniform ⟨8, 1⟩ 0)).2.pixel 2 0 = 9 := by
  have cells := @drawString_cells 9 4 leftColumn ⟨0, 0⟩ (uniform ⟨8, 1⟩ 0) [65, 7, 65]
    (by decide) (by decide) (by decide) (by decide) (by decide) (by decide)
  refine ⟨cells.1, ?_⟩
  exact cells.2.1 [65, 7] 65 [] rfl (by decide) 2 0 (by decide) (by decide)
    ⟨by decide, by decide⟩

end PigweedExperimental.Draw
