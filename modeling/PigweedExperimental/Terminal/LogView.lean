import PigweedExperimental.Draw.GhostPixels
import PigweedExperimental.Foundation.RowMajor
import PigweedExperimental.Terminal.TextBuffer

namespace PigweedExperimental.Terminal

/-! # The log view

`DrawLogTextBuffer` draws the text buffer's cells row by row and moves right by
the width that each draw returns. A character outside the font has no width, so
the cells after it in its row are left of their columns.
-/

open Draw

/-- Whether a plain `char` has a sign depends on the target. -/
def charValue (signed : Bool) (ch : UInt8) : Int :=
  if signed then ch.toInt8.toInt else ch.toNat

structure CharacterCall where
  ch : Int
  pos : Vector2 Int
  fgColor : UInt16
  bgColor : UInt16
  deriving DecidableEq

def CharacterCall.draw (call : CharacterCall) (font : FontSet) (framebuffer : FramebufferWriter) :
    Size Int × FramebufferWriter :=
  drawCharacter call.ch call.pos call.fgColor call.bgColor font framebuffer

/-- The loops' variables, and the calls of `DrawCharacter` so far. -/
structure LogView where
  pos : Vector2 Int
  calls : List CharacterCall
  framebuffer : FramebufferWriter

def kLeft : Int := 0

def drawLogCell (signed : Bool) (buffer : TextBuffer) (font : FontSet) (loc : Vector2 Int)
    (view : LogView) : LogView :=
  match buffer.getChar loc with
  | .error _ => view
  | .ok ch =>
    let call : CharacterCall :=
      ⟨charValue signed ch.ch, view.pos, ch.foregroundColor, ch.backgroundColor⟩
    let (charSize, framebuffer) := call.draw font view.framebuffer
    { pos := ⟨view.pos.x + charSize.width, view.pos.y⟩
      calls := view.calls ++ [call]
      framebuffer := framebuffer }

def drawLogRow (signed : Bool) (buffer : TextBuffer) (font : FontSet) (row : Nat)
    (view : LogView) : LogView :=
  let drawn := kNumCharsWide.fold (fun column _ view =>
    drawLogCell signed buffer font ⟨column, row⟩ view) view
  { drawn with pos := ⟨kLeft, drawn.pos.y + font.height.toNat⟩ }

def drawLogTextBuffer (signed : Bool) (buffer : TextBuffer) (top : Int) (font : FontSet)
    (framebuffer : FramebufferWriter) : LogView :=
  kNumRows.fold (fun row _ view => drawLogRow signed buffer font row view)
    ⟨⟨kLeft, top⟩, [], framebuffer⟩

/-- Calls added to those of a view, with what they draw and where they end. -/
structure Draws (font : FontSet) (calls : List CharacterCall) (pos : Vector2 Int)
    (before after : LogView) : Prop where
  calls_eq : after.calls = before.calls ++ calls
  framebuffer_eq : after.framebuffer =
    calls.foldl (fun framebuffer call => (call.draw font framebuffer).2) before.framebuffer
  pos_eq : after.pos = pos

theorem Draws.nothing (font : FontSet) (view : LogView) : Draws font [] view.pos view view where
  calls_eq := (List.append_nil _).symm
  framebuffer_eq := rfl
  pos_eq := rfl

theorem Draws.trans {font : FontSet} {calls more : List CharacterCall} {pos last : Vector2 Int}
    {before middle after : LogView} (first : Draws font calls pos before middle)
    (second : Draws font more last middle after) :
    Draws font (calls ++ more) last before after where
  calls_eq := by rw [second.calls_eq, first.calls_eq, List.append_assoc]
  framebuffer_eq := by rw [second.framebuffer_eq, first.framebuffer_eq, List.foldl_append]
  pos_eq := second.pos_eq

def charWidth (font : FontSet) (ch : Int) : Int :=
  if font.Drawable ch then font.width.toNat else 0

theorem charWidth_eq_iff {font : FontSet} {ch : Int} :
    charWidth font ch = font.width.toNat ↔ font.width = 0 ∨ font.Drawable ch := by
  rw [charWidth]
  split
  · rename_i drawable
    exact iff_of_true rfl (.inr drawable)
  · rename_i skipped
    rw [or_iff_left skipped, ← UInt8.toNat_inj, UInt8.toNat_zero]
    omega

theorem drawCharacter_size (ch : Int) (pos : Vector2 Int) (fgColor bgColor : UInt16)
    (font : FontSet) (framebuffer : FramebufferWriter) :
    (drawCharacter ch pos fgColor bgColor font framebuffer).1 =
      ⟨charWidth font ch, font.height.toNat⟩ := by
  rw [charWidth]
  split
  case isTrue drawable =>
    exact drawCharacter_size_of_drawable pos fgColor bgColor framebuffer drawable
  case isFalse skipped =>
    rw [drawCharacter_of_not_drawable pos fgColor bgColor framebuffer skipped]

namespace TextBuffer

/-- What `GetChar` returns inside the buffer. -/
def charAt (buffer : TextBuffer) (row column : Nat) : Char :=
  (buffer.getChar ⟨column, row⟩).toOption.getD Char.reset

theorem getChar_inside (buffer : TextBuffer) {row column : Nat} (row_lt : row < kNumRows)
    (column_lt : column < kNumCharsWide) :
    buffer.getChar ⟨column, row⟩ = .ok (buffer.charAt row column) := by
  have inRange : (0 ≤ (column : Int) ∧ (column : Int) ≤ kMaxColIdx) ∧
      (0 ≤ (row : Int) ∧ (row : Int) ≤ kMaxRowIdx) := by
    rw [kMaxColIdx, kMaxRowIdx]
    omega
  rw [charAt, getChar, dif_pos inRange]
  rfl

end TextBuffer

section Calls

variable (signed : Bool) (buffer : TextBuffer) (font : FontSet)

def cellValue (row column : Nat) : Int := charValue signed (buffer.charAt row column).ch

/-- The call that draws a cell where it is told to. -/
def cellCall (row column : Nat) (pos : Vector2 Int) : CharacterCall where
  ch := cellValue signed buffer row column
  pos := pos
  fgColor := (buffer.charAt row column).foregroundColor
  bgColor := (buffer.charAt row column).backgroundColor

/-- How far right the cells before a column reach. -/
def rowWidth (row : Nat) : (column : Nat) → Int
  | 0 => kLeft
  | column + 1 => rowWidth row column + charWidth font (cellValue signed buffer row column)

theorem drawLogCell_draws {row column : Nat} (row_lt : row < kNumRows)
    (column_lt : column < kNumCharsWide) (view : LogView) :
    Draws font [cellCall signed buffer row column view.pos]
      ⟨view.pos.x + charWidth font (cellValue signed buffer row column), view.pos.y⟩ view
      (drawLogCell signed buffer font ⟨column, row⟩ view) := by
  rw [drawLogCell, buffer.getChar_inside row_lt column_lt]
  refine ⟨rfl, rfl, ?_⟩
  dsimp only [CharacterCall.draw]
  rw [drawCharacter_size]
  rfl

/-- A row's calls, with its cells at the ends of those before them. -/
def rowCalls (row : Nat) (y : Int) (count : Nat) : List CharacterCall :=
  (List.range count).map fun column =>
    cellCall signed buffer row column ⟨rowWidth signed buffer font row column, y⟩

theorem drawLogRow_draws {row : Nat} (row_lt : row < kNumRows) (view : LogView)
    (atLeft : view.pos.x = kLeft) :
    Draws font (rowCalls signed buffer font row view.pos.y kNumCharsWide)
      ⟨kLeft, view.pos.y + font.height.toNat⟩ view
      (drawLogRow signed buffer font row view) := by
  let invariant (count : Nat) (drawn : LogView) : Prop :=
    Draws font (rowCalls signed buffer font row view.pos.y count)
      ⟨rowWidth signed buffer font row count, view.pos.y⟩ view drawn
  have columns : invariant kNumCharsWide (kNumCharsWide.fold (fun column _ view =>
      drawLogCell signed buffer font ⟨column, row⟩ view) view) := by
    apply fold_invariant invariant
    · have nothing := Draws.nothing font view
      rw [show view.pos = ⟨kLeft, view.pos.y⟩ by rw [← atLeft]] at nothing
      exact nothing
    · intro column column_lt current holds
      have cell := drawLogCell_draws signed buffer font row_lt column_lt current
      rw [holds.pos_eq] at cell
      dsimp only [invariant]
      rw [rowCalls, List.range_succ, List.map_append, List.map_singleton, rowWidth]
      exact holds.trans cell
  refine ⟨columns.calls_eq, columns.framebuffer_eq, ?_⟩
  rw [drawLogRow, columns.pos_eq]

def logCalls (top : Int) (rows : Nat) : List CharacterCall :=
  (List.range rows).flatMap fun row =>
    rowCalls signed buffer font row (top + row * font.height.toNat) kNumCharsWide

/-- Rows are `font.height` apart; where the cells of a row stand is up to the
widths of those before them. -/
theorem drawLogTextBuffer_draws (top : Int) (framebuffer : FramebufferWriter) :
    Draws font (logCalls signed buffer font top kNumRows)
      ⟨kLeft, top + kNumRows * font.height.toNat⟩ ⟨⟨kLeft, top⟩, [], framebuffer⟩
      (drawLogTextBuffer signed buffer top font framebuffer) := by
  apply fold_invariant fun count drawn =>
    Draws font (logCalls signed buffer font top count)
      ⟨kLeft, top + count * font.height.toNat⟩ ⟨⟨kLeft, top⟩, [], framebuffer⟩ drawn
  · rw [Nat.cast_zero, Int.zero_mul, Int.add_zero]
    exact Draws.nothing font ⟨⟨kLeft, top⟩, [], framebuffer⟩
  · intro row row_lt current holds
    have atRow := holds.pos_eq
    have drawn := drawLogRow_draws signed buffer font row_lt current (by rw [atRow])
    rw [atRow] at drawn
    rw [logCalls, List.range_succ, List.flatMap_append, List.flatMap_singleton]
    rw [show top + ((row + 1 : Nat) : Int) * font.height.toNat =
      top + row * font.height.toNat + font.height.toNat by push_cast; ring]
    exact holds.trans drawn

/-- Every cell of the buffer, each drawn at its place in the grid. -/
def gridCalls (top : Int) : List CharacterCall :=
  (List.range kNumRows).flatMap fun row => (List.range kNumCharsWide).map fun column =>
    cellCall signed buffer row column
      ⟨column * font.width.toNat, top + row * font.height.toNat⟩

theorem logCalls_eq_gridCalls_iff (top : Int) :
    logCalls signed buffer font top kNumRows = gridCalls signed buffer font top ↔
      ∀ row < kNumRows, ∀ column < kNumCharsWide,
        rowWidth signed buffer font row column = column * font.width.toNat := by
  dsimp only [logCalls, rowCalls, gridCalls]
  rw [flatMap_rows, flatMap_rows, List.map_inj_left]
  constructor
  · intro same row row_lt column column_lt
    have sameCall := same (row * kNumCharsWide + column)
      (List.mem_range.mpr (rowMajor_lt row_lt column_lt))
    rw [rowMajor_div column_lt, rowMajor_mod column_lt] at sameCall
    exact congrArg (fun call => call.pos.x) sameCall
  · intro inColumn index inRange
    rw [List.mem_range] at inRange
    rw [inColumn _ (row_lt inRange) _ (column_lt inRange)]

/-- A row is in its columns when each cell but the last is as wide as the font. -/
theorem rowWidth_eq_iff (row : Nat) :
    (∀ column < kNumCharsWide,
        rowWidth signed buffer font row column = column * font.width.toNat) ↔
      ∀ column, column + 1 < kNumCharsWide →
        charWidth font (cellValue signed buffer row column) = font.width.toNat := by
  have next (column : Nat) : ((column + 1 : Nat) : Int) * font.width.toNat =
      column * font.width.toNat + font.width.toNat := by
    push_cast
    ring
  constructor
  · intro inColumn column column_lt
    have before := inColumn column (Nat.lt_of_succ_lt column_lt)
    have after := inColumn (column + 1) column_lt
    rw [rowWidth, before, next] at after
    exact Int.add_left_cancel after
  · intro wide column
    induction column with
    | zero =>
        intro _
        rw [Nat.cast_zero, Int.zero_mul]
        rfl
    | succ column induction =>
        intro column_lt
        rw [rowWidth, induction (Nat.lt_of_succ_lt column_lt), wide column column_lt, next]

end Calls

theorem drawLogTextBuffer_isGrid_iff (signed : Bool) (buffer : TextBuffer) (top : Int)
    (font : FontSet) (framebuffer : FramebufferWriter) :
    (drawLogTextBuffer signed buffer top font framebuffer).calls =
        gridCalls signed buffer font top ↔
      font.width = 0 ∨ ∀ row < kNumRows, ∀ column, column + 1 < kNumCharsWide →
        font.Drawable (cellValue signed buffer row column) := by
  have drawn := drawLogTextBuffer_draws signed buffer font top framebuffer
  rw [drawn.calls_eq, List.nil_append, logCalls_eq_gridCalls_iff]
  simp only [rowWidth_eq_iff, charWidth_eq_iff]
  by_cases noWidth : font.width = 0
  · simp only [noWidth, true_or, implies_true]
  · simp only [noWidth, false_or]

/-- A font of one glyph, two pixels wide, for `'A'`. -/
def letterA : FontSet where
  data := #[3]
  width := 2
  height := 1
  startingCharacter := 65
  endingCharacter := 65
  covered := by decide

/-- A control character and, in the next cell, an `'A'`. -/
def controlThenA : TextBuffer :=
  (TextBuffer.fresh.drawAll
    [⟨1, kWhiteColor, kBlackColor⟩, ⟨65, kWhiteColor, kBlackColor⟩]).getD .fresh

theorem controlThenA_overlaps :
    (drawLogTextBuffer true controlThenA 0 letterA (uniform ⟨4, 1⟩ 0)).calls[1]? =
        some ⟨65, ⟨0, 0⟩, kWhiteColor, kBlackColor⟩ ∧
      (drawLogTextBuffer true controlThenA 0 letterA (uniform ⟨4, 1⟩ 0)).calls ≠
        gridCalls true controlThenA letterA 0 := by
  have drawn := drawLogTextBuffer_draws true controlThenA letterA 0 (uniform ⟨4, 1⟩ 0)
  rw [drawn.calls_eq, List.nil_append]
  constructor
  · rfl
  · intro same
    rw [logCalls_eq_gridCalls_iff] at same
    have atColumn := same 0 (by decide) 1 (by decide)
    revert atColumn
    decide

end PigweedExperimental.Terminal
