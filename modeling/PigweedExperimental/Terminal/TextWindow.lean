import PigweedExperimental.Foundation.Splitting
import PigweedExperimental.Terminal.TextBuffer
import Mathlib.Data.List.Induction

namespace PigweedExperimental.Terminal.TextBuffer

/-! # The window a text buffer shows

The text is its lines. The buffer shows the last rows of them, each cut at the
right margin, and nothing in the rest of its cells.
-/

/-- The lines of a text: one more than it has newlines. -/
def lines (text : List Char) : List (List Char) :=
  text.splitOnP fun ch => ch.ch = kNewline

theorem lines_nil : lines [] = [[]] := List.splitOnP_nil

theorem lines_concat_newline {ch : Char} (isNewline : ch.ch = kNewline)
    (text : List Char) : lines (text ++ [ch]) = lines text ++ [[]] := by
  apply splitOnP_concat_separator
  exact decide_eq_true isNewline

theorem lines_concat_char {ch : Char} (isChar : ch.ch ≠ kNewline) {text : List Char}
    {finished : List (List Char)} {line : List Char}
    (split : lines text = finished ++ [line]) :
    lines (text ++ [ch]) = finished ++ [line ++ [ch]] :=
  splitOnP_concat_other split (by simpa using isChar)

/-- The line at the top of the window: `max(0, k - kNumRows + 1)` for lines
`0` to `k`. -/
def firstShown (lines : List (List Char)) : Nat := lines.length - kNumRows

def windowCell (lines : List (List Char)) (row column : Nat) : Char :=
  match lines[firstShown lines + row]? with
  | some line => (line.take kNumCharsWide)[column]?.getD Char.reset
  | none => Char.reset

/-- Cells right of a line's end are blank; so is a line that does not exist. -/
theorem windowCell_eq_getD (lines : List (List Char)) (row column : Nat) :
    windowCell lines row column =
      (((lines[firstShown lines + row]?.getD []).take kNumCharsWide)[column]?).getD
        Char.reset := by
  rw [windowCell]
  split <;> rename_i found <;> rw [found] <;> simp

theorem windowCell_concat_nil (lines : List (List Char)) (row column : Nat) :
    windowCell (lines ++ [[]]) row column =
      if lines.length < kNumRows then
        windowCell lines row column
      else
        windowCell lines (row + 1) column := by
  have extended (index : Nat) : (lines ++ [[]])[index]?.getD [] = lines[index]?.getD [] := by
    rw [List.getElem?_append]
    split
    · rfl
    · rename_i beyond
      have absent : lines[index]? = none :=
        List.getElem?_eq_none (Nat.le_of_not_lt beyond)
      rw [absent]
      cases index - lines.length <;> rfl
  rw [windowCell_eq_getD, extended]
  rw [firstShown]
  rw [List.length_append, List.length_singleton]
  split
  · rw [windowCell_eq_getD, firstShown,
      show lines.length + 1 - kNumRows = lines.length - kNumRows by omega]
  · rw [windowCell_eq_getD, firstShown,
      show lines.length + 1 - kNumRows + row = lines.length - kNumRows + (row + 1) by omega]

/-- Below the last line there is nothing. -/
theorem windowCell_beyond {lines : List (List Char)} {row : Nat}
    (beyond : lines.length ≤ firstShown lines + row) (column : Nat) :
    windowCell lines row column = Char.reset := by
  rw [windowCell_eq_getD, List.getElem?_eq_none beyond]
  simp

theorem take_concat_getElem? (line : List Char) (ch : Char) (column : Nat)
    (inRange : column < kNumCharsWide) :
    ((line ++ [ch]).take kNumCharsWide)[column]? =
      if column = line.length then some ch else (line.take kNumCharsWide)[column]? := by
  rw [List.getElem?_take_of_lt inRange, List.getElem?_take_of_lt inRange]
  split
  · rename_i same
    rw [same, List.getElem?_concat_length]
  · rename_i different
    rw [List.getElem?_append]
    split
    · rfl
    · rw [List.getElem?_eq_none (by simp; omega), List.getElem?_eq_none (by omega)]

/-- A character changes one cell, or none when the line is full. -/
theorem windowCell_concat_char (finished : List (List Char)) (line : List Char) (ch : Char)
    (row column : Nat) (inRange : column < kNumCharsWide) :
    windowCell (finished ++ [line ++ [ch]]) row column =
      if firstShown (finished ++ [line]) + row = finished.length ∧ column = line.length then
        ch
      else
        windowCell (finished ++ [line]) row column := by
  have sameFirst : firstShown (finished ++ [line ++ [ch]]) =
      firstShown (finished ++ [line]) := by
    simp [firstShown]
  rw [windowCell_eq_getD, windowCell_eq_getD, sameFirst]
  generalize firstShown (finished ++ [line]) + row = index
  by_cases atLine : index = finished.length
  · rw [atLine, List.getElem?_concat_length, List.getElem?_concat_length,
      Option.getD_some, Option.getD_some, take_concat_getElem? _ _ _ inRange]
    simp only [true_and]
    split <;> rfl
  · rw [if_neg (fun both => atLine both.1)]
    have unchanged : (finished ++ [line ++ [ch]])[index]? = (finished ++ [line])[index]? := by
      rw [List.getElem?_append, List.getElem?_append]
      split
      · rfl
      · rw [List.getElem?_eq_none (by simp; omega), List.getElem?_eq_none (by simp; omega)]
    rw [unchanged]

/-- The buffer shows finished lines and the line the cursor is on. -/
structure Shows (finished : List (List Char)) (line : List Char) (buffer : TextBuffer) :
    Prop where
  cursor_x : buffer.cursor.x = min line.length kNumCharsWide
  cursor_y : buffer.cursor.y = min finished.length (kNumRows - 1)
  noWrap : buffer.characterWrapEnabled = false
  cells : ∀ row column,
    buffer.cell row column = windowCell (finished ++ [line]) row column

theorem fresh_shows : Shows [] [] fresh where
  cursor_x := rfl
  cursor_y := rfl
  noWrap := rfl
  cells := by
    intro row column
    rw [cell_fresh]
    rcases row with ⟨row, _⟩
    cases row with
    | zero => rfl
    | succ => rfl

section Draw

variable {finished : List (List Char)} {line : List Char} {buffer : TextBuffer} {ch : Char}

/-- Above the last row a newline moves the cursor. -/
theorem Shows.insertNewline_moves (shows : Shows finished line buffer)
    (notLast : finished.length < kNumRows - 1) :
    Shows (finished ++ [line]) [] { buffer.insertNewline with cursor.x := 0 } := by
  have cursor_y := shows.cursor_y
  have moves : buffer.cursor.y ≠ kMaxRowIdx := by
    rw [cursor_y]
    rw [kMaxRowIdx, kNumRows]
    rw [kNumRows] at notLast
    omega
  have inserted : buffer.insertNewline = { buffer with cursor := ⟨0, buffer.cursor.y + 1⟩ } := by
    rw [insertNewline]
    rw [if_neg moves]
  rw [inserted]
  exact {
    cursor_x := rfl
    cursor_y := by
      simp only [cursor_y, List.length_append, List.length_singleton]
      omega
    noWrap := shows.noWrap
    cells := by
      intro row column
      rw [windowCell_concat_nil, if_pos (by simp; omega)]
      exact shows.cells row column }

/-- On the last row the lines move up instead. -/
theorem Shows.insertNewline_scrolls (shows : Shows finished line buffer)
    (last : ¬finished.length < kNumRows - 1) :
    Shows (finished ++ [line]) [] { buffer.insertNewline with cursor.x := 0 } := by
  have cursor_y := shows.cursor_y
  have scrolls : buffer.cursor.y = kMaxRowIdx := by
    rw [cursor_y]
    rw [kMaxRowIdx, kNumRows]
    rw [kNumRows] at last
    omega
  have inserted : buffer.insertNewline =
      { buffer.scrollUp with cursor := ⟨0, buffer.cursor.y⟩ } := by
    rw [insertNewline]
    rw [if_pos scrolls]
    rfl
  rw [inserted]
  exact {
    cursor_x := rfl
    cursor_y := by
      simp only [cursor_y, List.length_append, List.length_singleton]
      omega
    noWrap := shows.noWrap
    cells := by
      intro row column
      rw [windowCell_concat_nil, if_neg (by simp; omega)]
      apply (cell_scrollUp buffer row column).trans
      split
      · rename_i more
        exact shows.cells ⟨row.val + 1, more⟩ column
      · symm
        apply windowCell_beyond
        simp [firstShown]
        omega }

theorem Shows.drawCharacter_newline (shows : Shows finished line buffer)
    (isNewline : ch.ch = kNewline) :
    ∃ next, buffer.drawCharacter ch = some next ∧
      Shows (finished ++ [line]) [] next := by
  refine ⟨_, if_pos isNewline, ?_⟩
  by_cases last : finished.length < kNumRows - 1
  · exact shows.insertNewline_moves last
  · exact shows.insertNewline_scrolls last

/-- Right of the margin nothing is drawn, and nothing of the line is shown. -/
theorem Shows.beyondMargin (shows : Shows finished line buffer)
    (full : buffer.cursor.x > kMaxColIdx) : Shows finished (line ++ [ch]) buffer := by
  have cursor_x := shows.cursor_x
  rw [kMaxColIdx] at full
  exact {
    cursor_x := by
      rw [cursor_x, List.length_append, List.length_singleton]
      omega
    cursor_y := shows.cursor_y
    noWrap := shows.noWrap
    cells := by
      intro row column
      have column_lt := column.isLt
      rw [windowCell_concat_char _ _ _ _ _ column_lt, if_neg (by omega)]
      exact shows.cells row column }

theorem Shows.putCharacter_room (shows : Shows finished line buffer)
    (room : ¬buffer.cursor.x > kMaxColIdx) :
    ∃ next, buffer.putCharacter ch = some next ∧ Shows finished (line ++ [ch]) next := by
  have cursor_x := shows.cursor_x
  have cursor_y := shows.cursor_y
  have rows_pos : 0 < kNumRows := Nat.succ_pos 8
  rw [putCharacter]
  rw [if_neg room]
  unfold kMaxColIdx kMaxRowIdx at *
  rw [dif_pos (by omega)]
  refine ⟨_, rfl, ?_⟩
  exact {
    cursor_x := by
      apply (congrArg (· + 1) cursor_x).trans
      rw [List.length_append, List.length_singleton]
      omega
    cursor_y := cursor_y
    noWrap := shows.noWrap
    cells := by
      intro row column
      have column_lt := column.isLt
      rw [windowCell_concat_char _ _ _ _ _ column_lt]
      apply (cell_setCell _ _ _ _ _ _).trans
      have atCursor :
          (row = ⟨buffer.cursor.y.toNat, by omega⟩ ∧
              column = ⟨buffer.cursor.x.toNat, by omega⟩) ↔
            firstShown (finished ++ [line]) + row.val = finished.length ∧
              column.val = line.length := by
        rw [Fin.ext_iff, Fin.ext_iff, firstShown, List.length_append,
          List.length_singleton]
        dsimp only
        omega
      rw [shows.cells row column]
      exact if_congr atCursor rfl rfl }

theorem Shows.drawCharacter_char (shows : Shows finished line buffer)
    (isChar : ch.ch ≠ kNewline) :
    ∃ next, buffer.drawCharacter ch = some next ∧
      Shows finished (line ++ [ch]) next := by
  have put : buffer.drawCharacter ch = buffer.putCharacter ch := by
    rw [drawCharacter]
    rw [if_neg isChar, shows.noWrap, if_neg (by simp)]
  rw [put]
  by_cases full : buffer.cursor.x > kMaxColIdx
  · refine ⟨buffer, ?_, shows.beyondMargin full⟩
    rw [putCharacter]
    rw [if_pos full]
  · exact shows.putCharacter_room full

end Draw

/-- Drawing never fails an assertion, and leaves the window of the text drawn
so far. -/
theorem drawAll_fresh_shows (text : List Char) :
    ∃ finished line buffer, lines text = finished ++ [line] ∧
      fresh.drawAll text = some buffer ∧ Shows finished line buffer := by
  induction text using List.reverseRecOn with
  | nil => exact ⟨[], [], fresh, lines_nil, rfl, fresh_shows⟩
  | append_singleton text ch induction =>
      rcases induction with ⟨finished, line, buffer, split, drawn, shows⟩
      rw [drawAll_concat, drawn, Option.bind_some]
      by_cases isNewline : ch.ch = kNewline
      · rcases shows.drawCharacter_newline isNewline with ⟨next, stepped, nextShows⟩
        refine ⟨_, _, next, ?_, stepped, nextShows⟩
        rw [lines_concat_newline isNewline, split]
      · rcases shows.drawCharacter_char isNewline with ⟨next, stepped, nextShows⟩
        exact ⟨_, _, next, lines_concat_char isNewline split, stepped, nextShows⟩

theorem getChar_of_shows {finished : List (List Char)} {line : List Char}
    {buffer : TextBuffer} (shows : Shows finished line buffer) (loc : Vector2 Int) :
    buffer.getChar loc =
      if (0 ≤ loc.x ∧ loc.x < kNumCharsWide) ∧ (0 ≤ loc.y ∧ loc.y < kNumRows) then
        .ok (windowCell (finished ++ [line]) loc.y.toNat loc.x.toNat)
      else
        .error .outOfRange := by
  have sameRange : ((0 ≤ loc.x ∧ loc.x ≤ kMaxColIdx) ∧ (0 ≤ loc.y ∧ loc.y ≤ kMaxRowIdx)) ↔
      ((0 ≤ loc.x ∧ loc.x < kNumCharsWide) ∧ (0 ≤ loc.y ∧ loc.y < kNumRows)) := by
    rw [kMaxColIdx, kMaxRowIdx]
    omega
  rw [getChar]
  split
  · rename_i inRange
    rw [if_pos (sameRange.mp inRange), shows.cells]
    rfl
  · rename_i outside
    rw [if_neg (fun inRange => outside (sameRange.mpr inRange))]
    rfl

/-- Whatever is drawn, no assertion fails, and the buffer is the window of the
text: the last lines, each cut at the right margin. -/
theorem drawAll_fresh (text : List Char) :
    ∃ buffer, fresh.drawAll text = some buffer ∧ ∀ loc : Vector2 Int,
      buffer.getChar loc =
        if (0 ≤ loc.x ∧ loc.x < kNumCharsWide) ∧ (0 ≤ loc.y ∧ loc.y < kNumRows) then
          .ok (windowCell (lines text) loc.y.toNat loc.x.toNat)
        else
          .error .outOfRange := by
  rcases drawAll_fresh_shows text with ⟨finished, line, buffer, split, drawn, shows⟩
  refine ⟨buffer, drawn, ?_⟩
  rw [split]
  exact getChar_of_shows shows

end PigweedExperimental.Terminal.TextBuffer
