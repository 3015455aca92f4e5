import Mathlib.Logic.Basic

namespace PigweedExperimental

/-! # Character-grid terminals

A grid of cells with a cursor. The cursor may stand behind the last column; the
next character then goes to a new line. At the last row a new line scrolls the
grid.
-/

structure CharacterGrid (α : Type u) (rows columns : Nat) where
  cell : Fin rows → Fin columns → Option α
  row : Fin rows
  column : Nat
  column_le : column ≤ columns
  columns_pos : 0 < columns

namespace CharacterGrid

variable {α : Type u} {rows columns : Nat}

def blank (rows_pos : 0 < rows) (columns_pos : 0 < columns) : CharacterGrid α rows columns where
  cell := fun _ _ => none
  row := ⟨0, rows_pos⟩
  column := 0
  column_le := Nat.zero_le _
  columns_pos := columns_pos

/-- The cells in unbounded coordinates, nothing being written outside the grid. -/
def read (grid : CharacterGrid α rows columns) (row column : Nat) : Option α :=
  if inside : row < rows ∧ column < columns then
    grid.cell ⟨row, inside.1⟩ ⟨column, inside.2⟩
  else
    none

def lineBreak (grid : CharacterGrid α rows columns) : CharacterGrid α rows columns :=
  if below : grid.row + 1 < rows then
    { grid with
      row := ⟨grid.row + 1, below⟩
      column := 0
      column_le := Nat.zero_le _ }
  else
    { grid with
      cell := fun row column => grid.read (row + 1) column
      column := 0
      column_le := Nat.zero_le _ }

/-- Writes at the cursor, which is within the line. -/
def place (grid : CharacterGrid α rows columns) (inLine : grid.column < columns)
    (character : α) : CharacterGrid α rows columns :=
  { grid with
    cell := fun row column =>
      if row.val = grid.row ∧ column.val = grid.column then some character else grid.cell row column
    column := grid.column + 1
    column_le := inLine }

theorem lineBreak_column (grid : CharacterGrid α rows columns) : grid.lineBreak.column = 0 := by
  rw [lineBreak]
  split <;> rfl

def put (grid : CharacterGrid α rows columns) (character : α) : CharacterGrid α rows columns :=
  if inLine : grid.column < columns then
    grid.place inLine character
  else
    grid.lineBreak.place (by rw [lineBreak_column]; exact grid.columns_pos) character

section Read

variable {grid : CharacterGrid α rows columns} {row column : Nat}

theorem read_outside (outside : ¬(row < rows ∧ column < columns)) :
    grid.read row column = none := dif_neg outside

theorem read_blank (rows_pos : 0 < rows) (columns_pos : 0 < columns) :
    (blank rows_pos columns_pos : CharacterGrid α rows columns).read row column = none := by
  rw [read]
  split <;> rfl

theorem read_lineBreak (below : grid.row + 1 < rows) :
    grid.lineBreak.read row column = grid.read row column := by
  rw [lineBreak]
  rw [dif_pos below]
  rfl

/-- Below the last row there is nothing to scroll in. -/
theorem read_lineBreak_last (last : ¬grid.row + 1 < rows) :
    grid.lineBreak.read row column = grid.read (row + 1) column := by
  rw [lineBreak]
  rw [dif_neg last]
  by_cases inside : row < rows ∧ column < columns
  · exact dif_pos inside
  · rw [read_outside inside, read_outside]
    omega

theorem read_place {inLine : grid.column < columns} {character : α} :
    (grid.place inLine character).read row column =
      if row = grid.row ∧ column = grid.column then some character
      else grid.read row column := by
  have row_lt := grid.row.isLt
  by_cases inside : row < rows ∧ column < columns
  · dsimp only [read]
    rw [dif_pos inside, dif_pos inside]
    rfl
  · rw [read_outside inside, read_outside inside, if_neg]
    omega

end Read

end CharacterGrid

end PigweedExperimental
