import PigweedExperimental.Foundation.Loop
import PigweedExperimental.Framebuffer.Framebuffer
import PigweedExperimental.Status

namespace PigweedExperimental.Terminal

/-! # `TextBuffer`

A scrolling buffer of text. Characters are drawn at a cursor, and a newline on
the last row scrolls the rows up.
-/

def kNumCharsWide : Nat := 52

def kNumRows : Nat := 9

instance : NeZero kNumRows := ⟨Nat.succ_ne_zero 8⟩

def kBlackColor : UInt16 := 0x0000

def kWhiteColor : UInt16 := 0xffff

def kMaxColIdx : Int := kNumCharsWide - 1

def kMaxRowIdx : Int := kNumRows - 1

/-- `'\n'` -/
def kNewline : UInt8 := 0x0a

namespace TextBuffer

/-- An ASCII character with a foreground and background colour. -/
structure Char where
  ch : UInt8
  foregroundColor : UInt16
  backgroundColor : UInt16
  deriving DecidableEq, Repr

/-- The cleared default state. -/
def Char.reset : Char where
  ch := 0
  foregroundColor := kWhiteColor
  backgroundColor := kBlackColor

/-- A row of ASCII text characters. -/
structure TextRow where
  chars : Vector Char kNumCharsWide
  deriving DecidableEq

def TextRow.clear (row : TextRow) : TextRow where
  chars := row.chars.map fun _ => Char.reset

end TextBuffer

structure TextBuffer where
  cursor : Vector2 Int
  characterWrapEnabled : Bool
  textRows : Vector TextBuffer.TextRow kNumRows
  deriving DecidableEq

namespace TextBuffer

def fresh : TextBuffer where
  cursor := ⟨0, 0⟩
  characterWrapEnabled := false
  textRows := .replicate kNumRows ⟨.replicate kNumCharsWide Char.reset⟩

/-- `text_rows_[row].chars[column]` -/
def cell (buffer : TextBuffer) (row : Fin kNumRows) (column : Fin kNumCharsWide) : Char :=
  buffer.textRows[row].chars[column]

def setCell (buffer : TextBuffer) (row : Fin kNumRows) (column : Fin kNumCharsWide)
    (ch : Char) : TextBuffer :=
  { buffer with
    textRows := buffer.textRows.set row ⟨buffer.textRows[row].chars.set column ch⟩ }

/-- The loop of `ScrollUp`. -/
def copyRowsUp (rows : Vector TextRow kNumRows) : Vector TextRow kNumRows :=
  (kNumRows - 1).fold (fun r inRange rows =>
    have below : r + 1 < kNumRows := Nat.add_lt_of_lt_sub inRange
    rows.set r rows[r + 1]) rows

def scrollUp (buffer : TextBuffer) : TextBuffer :=
  let copied := copyRowsUp buffer.textRows
  { buffer with textRows := copied.set (kNumRows - 1) copied.back.clear }

def insertNewline (buffer : TextBuffer) : TextBuffer :=
  let buffer :=
    if buffer.cursor.y = kMaxRowIdx then
      buffer.scrollUp
    else
      { buffer with cursor.y := buffer.cursor.y + 1 }
  { buffer with cursor.x := 0 }

theorem toNat_lt_of_le {index bound : Int} {count : Nat} (nonnegative : 0 ≤ index)
    (atMost : index ≤ bound) (bound_eq : bound = count - 1) : index.toNat < count := by
  omega

def getChar (buffer : TextBuffer) (loc : Vector2 Int) : Except Status Char :=
  if inRange : (0 ≤ loc.x ∧ loc.x ≤ kMaxColIdx) ∧ (0 ≤ loc.y ∧ loc.y ≤ kMaxRowIdx) then
    return buffer.cell ⟨loc.y.toNat, toNat_lt_of_le inRange.2.1 inRange.2.2 rfl⟩
      ⟨loc.x.toNat, toNat_lt_of_le inRange.1.1 inRange.1.2 rfl⟩
  else
    throw .outOfRange

/-- Put a character at the cursor; `none` where an assertion fails. -/
def putCharacter (buffer : TextBuffer) (ch : Char) : Option TextBuffer :=
  if buffer.cursor.x > kMaxColIdx then
    -- The current line has grown too long.
    some buffer
  else if asserted : (0 ≤ buffer.cursor.x ∧ buffer.cursor.x ≤ kMaxColIdx) ∧
      (0 ≤ buffer.cursor.y ∧ buffer.cursor.y ≤ kMaxRowIdx) then
    let drawn := buffer.setCell
      ⟨buffer.cursor.y.toNat, toNat_lt_of_le asserted.2.1 asserted.2.2 rfl⟩
      ⟨buffer.cursor.x.toNat, toNat_lt_of_le asserted.1.1 asserted.1.2 rfl⟩ ch
    some { drawn with cursor.x := drawn.cursor.x + 1 }
  else
    none

def drawCharacter (buffer : TextBuffer) (ch : Char) : Option TextBuffer :=
  if ch.ch = kNewline then
    some { buffer.insertNewline with cursor.x := 0 }
  else if buffer.characterWrapEnabled ∧ buffer.cursor.x > kMaxColIdx then
    buffer.insertNewline.putCharacter ch
  else
    buffer.putCharacter ch

/-- Draw characters one after another. -/
def drawAll (buffer : TextBuffer) (text : List Char) : Option TextBuffer :=
  text.foldlM drawCharacter buffer

theorem drawAll_append (buffer : TextBuffer) (text more : List Char) :
    buffer.drawAll (text ++ more) = (buffer.drawAll text).bind (drawAll · more) :=
  List.foldlM_append

theorem drawAll_singleton (buffer : TextBuffer) (ch : Char) :
    buffer.drawAll [ch] = buffer.drawCharacter ch :=
  bind_pure _

theorem drawAll_concat (buffer : TextBuffer) (text : List Char) (ch : Char) :
    buffer.drawAll (text ++ [ch]) =
      (buffer.drawAll text).bind (drawCharacter · ch) := by
  rw [drawAll_append]
  apply congrArg (Option.bind _)
  funext middle
  exact drawAll_singleton middle ch

@[simp] theorem cell_fresh (row : Fin kNumRows) (column : Fin kNumCharsWide) :
    fresh.cell row column = Char.reset := by
  simp [cell, fresh]

theorem cell_setCell (buffer : TextBuffer) (row row' : Fin kNumRows)
    (column column' : Fin kNumCharsWide) (ch : Char) :
    (buffer.setCell row column ch).cell row' column' =
      if row' = row ∧ column' = column then ch else buffer.cell row' column' := by
  by_cases sameRow : row' = row
  · subst sameRow
    by_cases sameColumn : column' = column
    · subst sameColumn
      simp [cell, setCell]
    · have different : column.val ≠ column'.val := fun h => sameColumn (Fin.ext h.symm)
      simp [cell, setCell, sameColumn, different]
  · have different : row.val ≠ row'.val := fun h => sameRow (Fin.ext h.symm)
    simp [cell, setCell, sameRow, different]

/-- Every row takes the contents of the next; only the last stays as it was. -/
theorem getElem_copyRowsUp (rows : Vector TextRow kNumRows) (row : Nat)
    (inRange : row < kNumRows) :
    (copyRowsUp rows)[row] =
      if more : row + 1 < kNumRows then rows[row + 1] else rows[row] := by
  let invariant (count : Nat) (current : Vector TextRow kNumRows) : Prop :=
    ∀ index (inRange : index < kNumRows), current[index] =
      if more : index < count ∧ index + 1 < kNumRows then rows[index + 1] else rows[index]
  have copied : invariant (kNumRows - 1) (copyRowsUp rows) := by
    apply fold_invariant
    · intro index inRange
      simp
    · intro r r_lt current holds index inRange
      have next : r + 1 < kNumRows := Nat.add_lt_of_lt_sub r_lt
      rw [Vector.getElem_set, holds, holds]
      by_cases isThis : r = index
      · subst isThis
        rw [if_pos rfl, dif_neg (by omega), dif_pos (by omega)]
      · rw [if_neg isThis]
        by_cases copiedBefore : index < r ∧ index + 1 < kNumRows
        · rw [dif_pos copiedBefore, dif_pos (by omega)]
        · rw [dif_neg copiedBefore, dif_neg (by omega)]
  rw [copied row inRange]
  by_cases more : row + 1 < kNumRows
  · rw [dif_pos more, dif_pos (by omega)]
  · rw [dif_neg more, dif_neg (by omega)]

theorem cell_scrollUp (buffer : TextBuffer) (row : Fin kNumRows)
    (column : Fin kNumCharsWide) :
    buffer.scrollUp.cell row column =
      if more : row.val + 1 < kNumRows then
        buffer.cell ⟨row.val + 1, more⟩ column
      else
        Char.reset := by
  by_cases more : row.val + 1 < kNumRows
  · have notLast : kNumRows - 1 ≠ row.val := by omega
    simp [cell, scrollUp, getElem_copyRowsUp, more, notLast]
  · have last : kNumRows - 1 = row.val := by omega
    simp [cell, scrollUp, TextRow.clear, more, last]

end TextBuffer

end PigweedExperimental.Terminal
