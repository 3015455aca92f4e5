import Mathlib.Logic.Function.Basic
import PigweedExperimental.Foundation.RowMajor

namespace PigweedExperimental

/-! # Rectangles filled word by word

A cursor walks through a rectangle of a two-dimensional memory row by row, and
from its end to its beginning again. Whatever the rectangle, words that make no
more than one round of it are all found again, each at its own place.
-/

structure Rectangle where
  left : Nat
  top : Nat
  width : Nat
  height : Nat
  deriving DecidableEq, Repr

namespace Rectangle

def area (rectangle : Rectangle) : Nat := rectangle.width * rectangle.height

/-- The column and the row of a cursor. -/
def place (rectangle : Rectangle) (cursor : Nat) : Nat × Nat :=
  (rectangle.left + cursor % rectangle.width,
    rectangle.top + cursor / rectangle.width % rectangle.height)

/-- Words written one after another from a cursor on. -/
def fill (rectangle : Rectangle) (memory : Nat × Nat → Word) (cursor : Nat) :
    List Word → Nat × Nat → Word
  | [] => memory
  | word :: words =>
      rectangle.fill (Function.update memory (rectangle.place cursor) word) (cursor + 1) words

section Fill

variable {rectangle : Rectangle} {memory : Nat × Nat → Word} {cursor : Nat}

theorem fill_append (first second : List Word) :
    rectangle.fill memory cursor (first ++ second) =
      rectangle.fill (rectangle.fill memory cursor first) (cursor + first.length) second := by
  induction first generalizing memory cursor with
  | nil => rfl
  | cons word words induction =>
      rw [List.cons_append, fill, fill, induction, List.length_cons, Nat.add_assoc,
        Nat.add_comm 1]

/-- The place of a cursor within the rectangle gives it away. -/
theorem place_mod_area {other : Nat} (same : rectangle.place cursor = rectangle.place other) :
    cursor % rectangle.area = other % rectangle.area := by
  rw [place, place, Prod.mk.injEq, Nat.add_left_cancel_iff, Nat.add_left_cancel_iff] at same
  rw [area, Nat.mod_mul, Nat.mod_mul, same.1, same.2]

/-- Within one round no two cursors share a place. -/
theorem place_injective {other : Nat} (later : cursor < other)
    (inRound : other < cursor + rectangle.area) :
    rectangle.place cursor ≠ rectangle.place other := by
  intro same
  have congruent := place_mod_area same
  have less : other - cursor < rectangle.area := by omega
  have difference : (other - cursor) % rectangle.area = 0 := by
    rw [← Nat.sub_mod_eq_zero_of_mod_eq congruent.symm]
  rw [Nat.mod_eq_of_lt less] at difference
  omega

theorem fill_of_ne {position : Nat × Nat} {words : List Word}
    (elsewhere : ∀ offset < words.length, position ≠ rectangle.place (cursor + offset)) :
    rectangle.fill memory cursor words position = memory position := by
  induction words generalizing memory cursor with
  | nil => rfl
  | cons word words induction =>
      have first := elsewhere 0 (Nat.succ_pos _)
      rw [fill, induction]
      · exact Function.update_of_ne first _ _
      · intro offset inRange
        rw [Nat.add_assoc, Nat.add_comm 1]
        exact elsewhere (offset + 1) (Nat.succ_lt_succ inRange)

/-- At most one round of words: each of them is at the place of its cursor. -/
theorem fill_place {words : List Word} (oneRound : words.length ≤ rectangle.area)
    {offset : Nat} {word : Word} (isWord : words[offset]? = some word) :
    rectangle.fill memory cursor words (rectangle.place (cursor + offset)) = word := by
  induction words generalizing memory cursor offset with
  | nil => cases isWord
  | cons first words induction =>
      rw [List.length_cons] at oneRound
      rw [fill]
      cases offset with
      | zero =>
          cases isWord
          rw [fill_of_ne]
          · exact Function.update_self _ _ _
          · intro later inRange
            apply place_injective
            · omega
            · omega
      | succ offset =>
          have rest := @induction (Function.update memory (rectangle.place cursor) first)
            (cursor + 1) (Nat.le_of_succ_le oneRound) offset isWord
          rw [Nat.add_assoc, Nat.add_comm 1] at rest
          exact rest

/-- A cursor at the beginning of a round finds a place by its row and column. -/
theorem place_rowMajor (atStart : rectangle.area ∣ cursor) {row column : Nat}
    (row_lt : row < rectangle.height) (column_lt : column < rectangle.width) :
    rectangle.place (cursor + (row * rectangle.width + column)) =
      (rectangle.left + column, rectangle.top + row) := by
  rcases atStart with ⟨rounds, rfl⟩
  have regroup : rectangle.area * rounds + (row * rectangle.width + column) =
      (rectangle.height * rounds + row) * rectangle.width + column := by
    rw [area, Nat.add_mul, Nat.mul_comm rectangle.width, Nat.mul_right_comm, Nat.add_assoc]
  rw [place, regroup, rowMajor_mod column_lt, rowMajor_div column_lt, Nat.mul_add_mod,
    Nat.mod_eq_of_lt row_lt]

/-- One round of words from the beginning on. -/
theorem fill_round {words : List Word} (oneRound : words.length = rectangle.area)
    (atStart : rectangle.area ∣ cursor) {row column : Nat} {word : Word}
    (row_lt : row < rectangle.height) (column_lt : column < rectangle.width)
    (isWord : words[row * rectangle.width + column]? = some word) :
    rectangle.fill memory cursor words (rectangle.left + column, rectangle.top + row) =
      word := by
  rw [← place_rowMajor atStart row_lt column_lt]
  exact fill_place (Nat.le_of_eq oneRound) isWord

end Fill

end Rectangle

end PigweedExperimental
