import Mathlib.Data.Nat.Count
import PigweedExperimental.Terminal.DeviceLog
import PigweedExperimental.Terminal.FrameLayout

namespace PigweedExperimental.Terminal

open Draw

/-! # The log on the screen

What a log message looks like in a frame: the last lines of the text, each cut at
the right margin, one cell for each of its characters that the font has. Characters
that it does not have are left out, and the rest of the line moves left.
-/

section Kept

variable {value : Nat → Item} {keep : Item → Prop} [DecidablePred keep]

/-- What is kept of a row of items. -/
def kept (value : Nat → Item) (keep : Item → Prop) [DecidablePred keep] (count : Nat) :
    List Item :=
  ((List.range count).map value).filter keep

theorem kept_succ (count : Nat) :
    kept value keep (count + 1) =
      kept value keep count ++ if keep (value count) then [value count] else [] := by
  rw [kept, kept, List.range_succ, List.map_append, List.filter_append]
  simp [List.filter_cons]

theorem length_kept (count : Nat) :
    (kept value keep count).length = Nat.count (fun column => keep (value column)) count := by
  induction count with
  | zero => simp [kept]
  | succ count induction =>
      rw [kept_succ, List.length_append, induction, Nat.count_succ]
      split <;> simp

/-- An item that is kept comes after the kept ones before it. -/
theorem kept_getElem? {column count : Nat} (column_lt : column < count)
    (isKept : keep (value column)) :
    (kept value keep count)[Nat.count (fun column => keep (value column)) column]? =
      some (value column) := by
  induction count with
  | zero => cases column_lt
  | succ count induction =>
      rw [kept_succ, List.getElem?_append, length_kept]
      rcases Nat.lt_succ_iff_lt_or_eq.mp column_lt with before | last
      · rw [if_pos (Nat.count_strict_mono isKept before), induction before]
      · subst last
        simp [isKept]

theorem exists_column {index count : Nat} (index_lt : index < (kept value keep count).length) :
    ∃ column < count, keep (value column) ∧
      Nat.count (fun column => keep (value column)) column = index := by
  induction count with
  | zero => simp [kept] at index_lt
  | succ count induction =>
      by_cases before : index < (kept value keep count).length
      · rcases induction before with ⟨column, column_lt, found⟩
        exact ⟨column, Nat.lt_succ_of_lt column_lt, found⟩
      · rw [length_kept] at before index_lt
        rw [Nat.count_succ] at index_lt
        split at index_lt
        · rename_i isKept
          exact ⟨count, Nat.lt_succ_self count, isKept, by omega⟩
        · omega

end Kept

/-- The characters of a row that have a cell. -/
def shownRow (signed : Bool) (font : FontSet) (cell : Nat → TextBuffer.Char) :
    List TextBuffer.Char :=
  kept cell (fun ch => font.Drawable (charValue signed ch.ch)) kNumCharsWide

/-- A line of text in a font, cell by cell, on a background. -/
def linePixel (signed : Bool) (font : FontSet) (text : List TextBuffer.Char)
    (background : UInt16) (x : Nat) (fontRow : Int) : UInt16 :=
  match text[x / font.width.toNat]? with
  | some ch =>
      font.shade ch.foregroundColor ch.backgroundColor (charValue signed ch.ch) fontRow
        (x % font.width.toNat : Nat)
  | none => background

section Picture

variable {signed : Bool} {buffer : TextBuffer} {font : FontSet} {top : Int}
  {framebuffer : FramebufferWriter}

/-- How many characters before a column have a cell. -/
def cellsBefore (signed : Bool) (buffer : TextBuffer) (font : FontSet) (row column : Nat) : Nat :=
  Nat.count (fun column => font.Drawable (charValue signed (buffer.charAt row column).ch)) column

theorem rowWidth_eq_cellsBefore (row column : Nat) :
    rowWidth signed buffer font row column =
      font.width.toNat * (cellsBefore signed buffer font row column : Int) := by
  induction column with
  | zero => simp [rowWidth, kLeft, cellsBefore]
  | succ column induction =>
      rw [rowWidth, induction, charWidth, cellsBefore, cellsBefore, Nat.count_succ, cellValue]
      split <;> simp [Int.mul_add]

/-- The calls for the log, as the drawing primitives. -/
def logCall (signed : Bool) (buffer : TextBuffer) (font : FontSet) (top : Int)
    (row column : Nat) : Call :=
  CharacterCall.toCall font (cellCall signed buffer row column
    ⟨rowWidth signed buffer font row column, top + row * font.height.toNat⟩)

/-- The place of a character that has a cell: its row, as far right as there are cells
before it. -/
def InLogCell (signed : Bool) (buffer : TextBuffer) (font : FontSet) (top : Int)
    (row column : Nat) (x y : Int) : Prop :=
  font.Drawable (charValue signed (buffer.charAt row column).ch) ∧
    (font.width.toNat * (cellsBefore signed buffer font row column : Int) ≤ x ∧
      x < font.width.toNat * (cellsBefore signed buffer font row column : Int) +
        font.width.toNat) ∧
    font.height.toNat * (row : Int) ≤ y - top ∧
      y - top < font.height.toNat * (row : Int) + font.height.toNat

theorem InLogCell.row_unique {row column other otherColumn : Nat} {x y : Int}
    (inCell : InLogCell signed buffer font top row column x y)
    (inOther : InLogCell signed buffer font top other otherColumn x y) : row = other := by
  exact_mod_cast step_unique inCell.2.2 inOther.2.2

theorem InLogCell.column_lt {row column other : Nat} {x y : Int}
    (inCell : InLogCell signed buffer font top row column x y) (less : column < other) :
    ¬InLogCell signed buffer font top row other x y := by
  intro inOther
  have same := step_unique inCell.2.1 inOther.2.1
  have later : cellsBefore signed buffer font row column <
      cellsBefore signed buffer font row other := Nat.count_strict_mono inCell.1 less
  omega

/-- A character that has a cell covers it and nothing else. -/
theorem inCell_logCell_iff (fits : 0 ≤ top ∧ top + font.height.toNat * kNumRows ≤ 65536)
    {row column x y : Nat} (row_lt : row < kNumRows) (column_lt : column < kNumCharsWide)
    (x_lt : x < 65536) (y_lt : y < 65536) :
    (font.Drawable (charValue signed (buffer.charAt row column).ch) ∧
      inCell font ⟨rowWidth signed buffer font row column,
        top + row * font.height.toNat⟩ x y) ↔
      InLogCell signed buffer font top row column x y := by
  have range := rowWidth_range signed buffer font row column
  have width_lt := font.width.toNat_lt
  have columnEnd : (font.width.toNat : Int) * column ≤ 255 * 52 := by
    exact_mod_cast Nat.mul_le_mul (Nat.le_of_lt_succ width_lt) (Nat.le_of_lt column_lt)
  have rowEnd : (font.height.toNat : Int) * row + font.height.toNat ≤
      font.height.toNat * kNumRows := by
    exact_mod_cast Nat.mul_le_mul_left font.height.toNat row_lt
  have row_nonneg : 0 ≤ (font.height.toNat : Int) * row := by positivity
  rw [rowWidth_eq_cellsBefore] at range ⊢
  rw [InLogCell, inCell, Int.mul_comm (row : Int)]
  apply and_congr_right
  intro _
  dsimp only
  omega

theorem folded_logCall_iff (fits : 0 ≤ top ∧ top + font.height.toNat * kNumRows ≤ 65536)
    {row column x y : Nat} (row_lt : row < kNumRows) (column_lt : column < kNumCharsWide)
    (x_lt : x < 65536) (y_lt : y < 65536) :
    Folded (logCall signed buffer font top row column).Shape x y ↔
      InLogCell signed buffer font top row column x y := by
  rw [logCall, CharacterCall.toCall, folded_character_iff x_lt y_lt]
  exact inCell_logCell_iff fits row_lt column_lt x_lt y_lt

theorem mem_logCalls {call : Call} :
    call ∈ (logCalls signed buffer font top kNumRows).map (CharacterCall.toCall font) ↔
      ∃ row < kNumRows, ∃ column < kNumCharsWide,
        logCall signed buffer font top row column = call := by
  simp only [logCalls, rowCalls, logCall, List.mem_map, List.mem_flatMap, List.mem_range]
  constructor
  · rintro ⟨_, ⟨row, row_lt, column, column_lt, rfl⟩, isCall⟩
    exact ⟨row, row_lt, column, column_lt, isCall⟩
  · rintro ⟨row, row_lt, column, column_lt, isCall⟩
    exact ⟨_, ⟨row, row_lt, column, column_lt, rfl⟩, isCall⟩

theorem shownRow_cellsBefore {row column : Nat} (column_lt : column < kNumCharsWide)
    (drawable : font.Drawable (charValue signed (buffer.charAt row column).ch)) :
    (shownRow signed font (buffer.charAt row))[cellsBefore signed buffer font row column]? =
      some (buffer.charAt row column) :=
  @kept_getElem? _ (buffer.charAt row) (fun ch => font.Drawable (charValue signed ch.ch)) _ _ _
    column_lt drawable

/-- No place is in the cells of two characters. -/
theorem logCalls_apart (fits : 0 ≤ top ∧ top + font.height.toNat * kNumRows ≤ 65536)
    {x y : Nat} (x_lt : x < 65536) (y_lt : y < 65536) :
    ((logCalls signed buffer font top kNumRows).map (CharacterCall.toCall font)).Pairwise
      fun first second => ¬(Folded first.Shape x y ∧ Folded second.Shape x y) := by
  simp only [logCalls, rowCalls, List.pairwise_map, List.pairwise_flatMap]
  constructor
  · intro row isRow
    rw [List.mem_range] at isRow
    apply List.pairwise_lt_range.imp_of_mem
    intro first second isFirst isSecond less both
    rw [List.mem_range] at isFirst isSecond
    have inFirst := (folded_logCall_iff fits isRow isFirst x_lt y_lt).mp both.1
    have inSecond := (folded_logCall_iff fits isRow isSecond x_lt y_lt).mp both.2
    exact inFirst.column_lt less inSecond
  · apply List.pairwise_lt_range.imp_of_mem
    intro first second isFirst isSecond less call isCall other isOther both
    rw [List.mem_range] at isFirst isSecond
    rw [List.mem_map] at isCall isOther
    rcases isCall with ⟨column, isColumn, rfl⟩
    rcases isOther with ⟨otherColumn, isOtherColumn, rfl⟩
    rw [List.mem_range] at isColumn isOtherColumn
    have inFirst := (folded_logCall_iff fits isFirst isColumn x_lt y_lt).mp both.1
    have inSecond := (folded_logCall_iff fits isSecond isOtherColumn x_lt y_lt).mp both.2
    exact less.ne (inFirst.row_unique inSecond)

theorem logCalls_lossless : ∀ call ∈ (logCalls signed buffer font top kNumRows).map
    (CharacterCall.toCall font), call.Lossless := by
  intro call isCall
  rcases mem_logCalls.mp isCall with ⟨_, _, _, _, rfl⟩
  trivial

theorem drawLogTextBuffer_cell (fits : 0 ≤ top ∧ top + font.height.toNat * kNumRows ≤ 65536)
    {row column x y : Nat} (row_lt : row < kNumRows) (column_lt : column < kNumCharsWide)
    (inLogCell : InLogCell signed buffer font top row column x y)
    (x_lt : x < framebuffer.width.toNat) (y_lt : y < framebuffer.height.toNat) :
    (drawLogTextBuffer signed buffer top font framebuffer).framebuffer.pixel x y =
      font.shade (buffer.charAt row column).foregroundColor
        (buffer.charAt row column).backgroundColor
        (charValue signed (buffer.charAt row column).ch)
        (y - (top + font.height.toNat * row))
        (x - font.width.toNat * cellsBefore signed buffer font row column) := by
  have x_lt' := Nat.lt_trans x_lt framebuffer.width.toNat_lt
  have y_lt' := Nat.lt_trans y_lt framebuffer.height.toNat_lt
  have isCall : logCall signed buffer font top row column ∈
      (logCalls signed buffer font top kNumRows).map (CharacterCall.toCall font) :=
    mem_logCalls.mpr ⟨row, row_lt, column, column_lt, rfl⟩
  have folded := (folded_logCall_iff fits row_lt column_lt x_lt' y_lt').mpr inLogCell
  have inCell := (inCell_logCell_iff fits row_lt column_lt x_lt' y_lt').mpr inLogCell
  have painted := drawCharacter_paints
    ⟨rowWidth signed buffer font row column, top + row * font.height.toNat⟩
    (buffer.charAt row column).foregroundColor (buffer.charAt row column).backgroundColor
    framebuffer inCell.1
  rw [drawLogTextBuffer_eq_drawAll,
    drawAll_call logCalls_lossless (logCalls_apart fits x_lt' y_lt') x_lt y_lt isCall folded]
  apply (painted.inside x y x_lt y_lt inCell.2).trans
  have fontWidth_lt := font.width.toNat_lt
  have fontHeight_lt := font.height.toNat_lt
  rcases inLogCell with ⟨_, inWidth, inHeight⟩
  dsimp only
  rw [rowWidth_eq_cellsBefore, Int.mul_comm (row : Int)]
  congr 1 <;> omega

theorem drawLogTextBuffer_bare (fits : 0 ≤ top ∧ top + font.height.toNat * kNumRows ≤ 65536)
    {x y : Nat} (bare : ∀ row < kNumRows, ∀ column < kNumCharsWide,
      ¬InLogCell signed buffer font top row column x y)
    (x_lt : x < framebuffer.width.toNat) (y_lt : y < framebuffer.height.toNat) :
    (drawLogTextBuffer signed buffer top font framebuffer).framebuffer.pixel x y =
      framebuffer.pixel x y := by
  have x_lt' := Nat.lt_trans x_lt framebuffer.width.toNat_lt
  have y_lt' := Nat.lt_trans y_lt framebuffer.height.toNat_lt
  rw [drawLogTextBuffer_eq_drawAll]
  apply drawAll_background logCalls_lossless x_lt y_lt
  intro covers
  rcases covers with ⟨call, isCall, folded⟩
  rcases mem_logCalls.mp isCall with ⟨row, row_lt, column, column_lt, rfl⟩
  exact bare row row_lt column column_lt
    ((folded_logCall_iff fits row_lt column_lt x_lt' y_lt').mp folded)

/-- A row of the log is a line of text: its characters that have a cell, one after
another from the margin on. -/
theorem drawLogTextBuffer_line (wide : 0 < font.width.toNat)
    (fits : 0 ≤ top ∧ top + font.height.toNat * kNumRows ≤ 65536) {row x y : Nat}
    (row_lt : row < kNumRows)
    (inRow : font.height.toNat * (row : Int) ≤ y - top ∧
      y - top < font.height.toNat * (row : Int) + font.height.toNat)
    (x_lt : x < framebuffer.width.toNat) (y_lt : y < framebuffer.height.toNat) :
    (drawLogTextBuffer signed buffer top font framebuffer).framebuffer.pixel x y =
      linePixel signed font (shownRow signed font (buffer.charAt row))
        (framebuffer.pixel x y) x (y - (top + font.height.toNat * row)) := by
  have inLine : font.width.toNat * ((x / font.width.toNat : Nat) : Int) ≤ x ∧
      x < font.width.toNat * ((x / font.width.toNat : Nat) : Int) + font.width.toNat := by
    constructor
    · exact_mod_cast Nat.mul_div_le x font.width.toNat
    · exact_mod_cast Nat.lt_mul_div_succ x wide
  rw [linePixel]
  cases found : (shownRow signed font (buffer.charAt row))[x / font.width.toNat]? with
  | some ch =>
      rcases List.getElem?_eq_some_iff.mp found with ⟨inShown, _⟩
      rcases exists_column inShown with ⟨column, column_lt, drawable, before⟩
      have sameColumn : cellsBefore signed buffer font row column = x / font.width.toNat := before
      have isChar := shownRow_cellsBefore column_lt drawable
      rw [sameColumn] at isChar
      cases found.symm.trans isChar
      have inLogCell : InLogCell signed buffer font top row column x y := by
        refine ⟨drawable, ?_, inRow⟩
        rw [sameColumn]
        exact inLine
      rw [drawLogTextBuffer_cell fits row_lt column_lt inLogCell x_lt y_lt, sameColumn]
      have rest : (x : Int) - font.width.toNat * ((x / font.width.toNat : Nat) : Int) =
          (x % font.width.toNat : Nat) := by
        have split : (font.width.toNat : Int) * ((x / font.width.toNat : Nat) : Int) +
            ((x % font.width.toNat : Nat) : Int) = x := by
          exact_mod_cast Nat.div_add_mod x font.width.toNat
        omega
      rw [rest]
  | none =>
      apply drawLogTextBuffer_bare fits _ x_lt y_lt
      intro other other_lt column column_lt inLogCell
      have sameRow : other = row := by exact_mod_cast step_unique inLogCell.2.2 inRow
      subst sameRow
      have sameColumn : cellsBefore signed buffer font other column = x / font.width.toNat := by
        exact_mod_cast step_unique inLogCell.2.1 inLine
      have isChar := shownRow_cellsBefore column_lt inLogCell.1
      rw [sameColumn] at isChar
      cases found.symm.trans isChar

end Picture

theorem length_shownRow_le (signed : Bool) (font : FontSet) (cell : Nat → TextBuffer.Char) :
    (shownRow signed font cell).length ≤ kNumCharsWide := by
  rw [shownRow, length_kept]
  exact Nat.count_le _

theorem shownRow_congr {signed : Bool} {font : FontSet} {cell other : Nat → TextBuffer.Char}
    (same : ∀ column < kNumCharsWide, cell column = other column) :
    shownRow signed font cell = shownRow signed font other := by
  rw [shownRow, shownRow, kept, kept]
  apply congrArg
  apply List.map_congr_left
  intro column isColumn
  exact same column (List.mem_range.mp isColumn)

theorem charAt_eq_windowCell {text : List TextBuffer.Char} {buffer : TextBuffer}
    (drawn : TextBuffer.fresh.drawAll text = some buffer) {row column : Nat}
    (row_lt : row < kNumRows) (column_lt : column < kNumCharsWide) :
    buffer.charAt row column = TextBuffer.windowCell (TextBuffer.lines text) row column := by
  rcases TextBuffer.drawAll_fresh_shows text with
    ⟨finished, line, shown, split, drawnShown, shows⟩
  cases drawn.symm.trans drawnShown
  have inRange : (0 ≤ (column : Int) ∧ (column : Int) < kNumCharsWide) ∧
      0 ≤ (row : Int) ∧ (row : Int) < kNumRows := by omega
  have got := TextBuffer.getChar_of_shows shows ⟨column, row⟩
  rw [if_pos inRange, ← split] at got
  rw [TextBuffer.charAt, got]
  rfl

/-- The lines below the header of a frame, from the first row on that the log has. -/
theorem Scene.draw_line (scene : Scene) {framebuffer : FramebufferWriter} {x y : Nat}
    (inLog : 172 ≤ y ∧ y < 244) (x_lt : x < framebuffer.width.toNat)
    (y_lt : y < framebuffer.height.toNat) :
    (scene.draw framebuffer).pixel x y =
      linePixel scene.signed scene.artwork.font6x8
        (shownRow scene.signed scene.artwork.font6x8
          (scene.logTextBuffer.charAt ((y - 172) / 8)))
        (framebuffer.pixel x y) x ((y - 172) % 8 : Nat) := by
  have width : scene.artwork.font6x8.width.toNat = 6 := rfl
  have height : scene.artwork.font6x8.height.toNat = 8 := rfl
  by_cases inColumns : x < 312
  · have inside : (FramePart.logView.extent scene).Contains x y := by
      simp only [Extent.Contains, FramePart.extent]
      omega
    have later : FramePart.logView ∈
        [FramePart.colorSheet, .testSheet, .boxLabel, .boxSheet, .logView] := by decide
    have apart := FramePart.not_fps_of_later scene later inside
    rw [FramePart.shown_apart (by decide) inside apart x_lt y_lt, FramePart.draw]
    have row_lt : (y - 172) / 8 < kNumRows := by
      rw [kNumRows]
      omega
    have rowTop : (y : Int) - (172 + (8 : Nat) * ((y - 172) / 8 : Nat)) =
        ((y - 172) % 8 : Nat) := by omega
    have line := @drawLogTextBuffer_line scene.signed scene.logTextBuffer scene.artwork.font6x8
      172 framebuffer
    rw [width, height] at line
    have shown := @line (by decide) (by decide) _ x y row_lt (by omega) x_lt y_lt
    rw [rowTop] at shown
    exact shown
  · have outside (part : FramePart) : ¬(part.extent scene).Contains x y := by
      have narrow := FramePart.fps_width scene
      cases part <;> simp only [Extent.Contains, FramePart.extent] <;> omega
    have short := length_shownRow_le scene.signed scene.artwork.font6x8
      (scene.logTextBuffer.charAt ((y - 172) / 8))
    have beyond : kNumCharsWide ≤ x / 6 := by
      rw [kNumCharsWide]
      omega
    rw [FramePart.bare_outside outside x_lt y_lt, linePixel, width,
      List.getElem?_eq_none (short.trans beyond)]

/-- From messages to pixels: as long as no escape is rejected, the device gets through
exactly those logs whose control sequences have at most ten characters in all. Then a
frame shows the last lines of what was logged below its header, every character in the
colours set before it, and nothing else. -/
theorem logAll_shown {logs : List (List UInt8)}
    (noneRejected : NoneRejected (scan (logText logs))) :
    ((DemoDecoder.fresh.logAll .device logs).isSome ↔
        controlLength (scan (logText logs)) ≤ 10) ∧
      ∀ demo ∈ DemoDecoder.fresh.logAll .device logs,
        ∀ scene : Scene, scene.logTextBuffer = demo.logTextBuffer →
        ∀ (framebuffer : FramebufferWriter) (x y : Nat), 172 ≤ y ∧ y < 244 →
          x < framebuffer.width.toNat → y < framebuffer.height.toNat →
          (scene.draw framebuffer).pixel x y =
            linePixel scene.signed scene.artwork.font6x8
              (shownRow scene.signed scene.artwork.font6x8
                (TextBuffer.windowCell
                  (TextBuffer.lines (colored [] (scan (logText logs)))) ((y - 172) / 8)))
              (framebuffer.pixel x y) x ((y - 172) % 8 : Nat) := by
  rcases DemoDecoder.logAll_device noneRejected with ⟨survives, draws⟩
  refine ⟨survives, ?_⟩
  intro demo isDemo scene sameBuffer framebuffer x y inLog x_lt y_lt
  have drawn := draws demo isDemo
  rw [DemoDecoder.Draws, ← sameBuffer] at drawn
  have row_lt : (y - 172) / 8 < kNumRows := by
    rw [kNumRows]
    omega
  rw [scene.draw_line inLog x_lt y_lt, shownRow_congr]
  intro column column_lt
  exact charAt_eq_windowCell drawn row_lt column_lt

/-- `ESC [ 4 1 m a` -/
def redA : List UInt8 := [kEscapeChar, kCsiChar, 0x34, 0x31, kSetGraphics, 0x61]

/-- A frame with empty glyphs shows the background of the character. -/
theorem logAll_shown_redA :
    (DemoDecoder.fresh.logAll .device [redA]).isSome ∧
      ∀ demo ∈ DemoDecoder.fresh.logAll .device [redA],
        (({ firstScene with logTextBuffer := demo.logTextBuffer } : Scene).draw
          (uniform ⟨320, 240⟩ 7)).pixel 5 179 = 0xa800 := by
  have shown := @logAll_shown [redA] (complete_noneRejected (by decide))
  refine ⟨shown.1.mpr (by decide), ?_⟩
  intro demo isDemo
  rw [shown.2 demo isDemo { firstScene with logTextBuffer := demo.logTextBuffer } rfl
    (uniform ⟨320, 240⟩ 7) 5 179 (by decide) (by decide) (by decide)]
  dsimp only
  decide +kernel

end PigweedExperimental.Terminal
